import SimApprove.Text.Split

/-!
# Paths as texts

Joining puts one slash between two parts unless the first already ends in one,
and the parts of a path are what stands between slashes.
-/

namespace SimApprove.Text

def pathParts (path : String) : List String := (split '/' path.toList).map String.ofList

def joinPath (directory name : String) : String :=
  if directory = "" ∨ directory.toList.getLast? = some '/' then directory ++ name
  else directory ++ "/" ++ name

end SimApprove.Text
