import SimApprove.Text.Numeral

/-!
# Log levels

Five levels from `error` to `trace`. A level can be named in any ASCII case or
by its number, 1 for `error` to 5 for `trace`. A threshold lets a level pass if
it is at least as severe.
-/

namespace SimApprove.Log

inductive Level
  | error
  | warn
  | info
  | debug
  | trace
  deriving DecidableEq, Repr

namespace Level

def all : List Level := [error, warn, info, debug, trace]

/-- One for the most severe level, five for the least. -/
def number : Level → Nat
  | error => 1
  | warn => 2
  | info => 3
  | debug => 4
  | trace => 5

def name : Level → String
  | error => "ERROR"
  | warn => "WARN"
  | info => "INFO"
  | debug => "DEBUG"
  | trace => "TRACE"

def passes (threshold level : Level) : Bool := level.number ≤ threshold.number

def ofText? (s : String) : Option Level :=
  match Text.readUnsigned s with
  | some n => all.find? (·.number = n.toNat)
  | none => all.find? fun l => l.name.toList = s.toList.map Char.toUpper

end Level

end SimApprove.Log
