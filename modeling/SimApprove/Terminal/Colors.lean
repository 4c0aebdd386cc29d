/-!
# Coloured text

Two styles for terminals: red and bold for the word that starts an error
message, yellow for what the user should retype. A stream without colours gets
the bare text.
-/

namespace SimApprove.Terminal

structure Colors where
  output : Bool
  errors : Bool
  deriving DecidableEq, Repr

def Colors.off : Colors := ⟨false, false⟩

def escape (code : Nat) : String := "\x1b[" ++ toString code ++ "m"

def paint (enabled : Bool) (codes : List Nat) (text : String) : String :=
  if enabled then String.join (codes.map escape) ++ text ++ escape 0 else text

def Colors.errorWord (c : Colors) (text : String) : String := paint c.errors [31, 1] text

def Colors.retype (c : Colors) (text : String) : String := paint c.output [33] text

end SimApprove.Terminal
