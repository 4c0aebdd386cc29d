import SimApprove.Consent.Locator
import SimApprove.World.FileTree

/-!
# Open databases

What the database engine makes of a path: the content of a file, or a new
database without tables, which vanishes in the end unless a file is made for it.
A grant in a database that is open for reading only is refused, but not before
the names in the statement are found to fit.
-/

namespace SimApprove

structure OpenDatabase where
  content : Consent.Database
  /-- Where changes go, unless they vanish. -/
  file : Option Location
  readOnly : Bool
  deriving DecidableEq, Repr

namespace OpenDatabase

def temporary : OpenDatabase := ⟨.withoutTable, none, false⟩

/-- A statement with wrong names is refused before it is run. -/
def precedesRun : EngineError → Bool
  | .noSuchTable _ | .noSuchColumn .. => true
  | _ => false

def grant (d : OpenDatabase) (evaluate : Consent.Evaluation) (service app : String) :
    Except EngineError Consent.Database :=
  match d.content.grant evaluate service app with
  | .error cause => .error (if d.readOnly && !precedesRun cause then .readOnly else cause)
  | .ok content => if d.readOnly then .error .readOnly else .ok content

theorem grant_of_writable (content : Consent.Database) (file : Option Location)
    (evaluate : Consent.Evaluation) (service app : String) :
    OpenDatabase.grant ⟨content, file, false⟩ evaluate service app =
      content.grant evaluate service app := by
  simp only [grant, Bool.false_and, Bool.false_eq_true, if_false]
  cases content.grant evaluate service app <;> rfl

end OpenDatabase

namespace FileTree

/-- A directory can be opened for reading, but has nothing to read. -/
def openFile (t : FileTree) (locator : Consent.Locator) : Except EngineError OpenDatabase :=
  match (Text.Utf8.decode? locator.path).bind t.locate? with
  | none => .error .cannotOpen
  | some here =>
    let readOnly := locator.access = .readOnly || locator.immutable
    if locator.access = .readOnly && t.isDirectory here then .error .cannotRead
    else if locator.access = .creating && t.hasRoom here then
      .ok ⟨.withoutTable, some here, readOnly⟩
    else (t.database here).map fun content => ⟨content, some here, readOnly⟩

def openDatabase (t : FileTree) (path : String) : Except EngineError OpenDatabase := do
  let locator ← Consent.Locator.ofPath path
  if locator.access = .inMemory then .ok .temporary else t.openFile locator

def opened (t : FileTree) (d : OpenDatabase) : FileTree :=
  match d.file with
  | some here => if (t.node? here).isNone then t.make here else t
  | none => t

def store (t : FileTree) (file : Option Location) (content : Consent.Database) : FileTree :=
  match file with
  | some here => t.setDatabase here content
  | none => t

end FileTree

end SimApprove
