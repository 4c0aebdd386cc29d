import SimApprove.Decimal.Shortest
import SimApprove.Text.Width

/-!
# TOML values

The values of a TOML document. Integers have at most 128 bits, signed or
unsigned, and floating point numbers do not exceed the greatest double; a number
beyond that has no value, and neither has one whose digits are none, which the
grammar lets pass. Such a number is harmless until it is looked at, and
`Value.isReadable` says that there is none within a value. Dates and times are
not kept apart, since nothing depends on their content. The entries of a table
are in the order of their keys.
-/

namespace SimApprove.Toml

inductive FloatLiteral
  | decimal (negative : Bool) (digits : Nat) (exponent : Int)
  | infinity (negative : Bool)
  | nan
  deriving DecidableEq, Repr

inductive Value
  | string (text : String)
  | integer (value : Int)
  | float (value : FloatLiteral)
  | unreadable
  | boolean (value : Bool)
  | moment
  | array (items : List Value)
  | table (entries : List (String × Value))
  deriving Repr

/-- Entries in the order of their keys. -/
abbrev Table := List (String × Value)

/-! ## Ranges -/

def integerInRange (n : Int) : Bool := Text.fitsSigned 128 n || Text.fitsUnsigned 128 n

def Value.ofInteger (n : Int) : Value := if integerInRange n then .integer n else .unreadable

/-- A decimal that rounds beyond the greatest double is none. -/
def FloatLiteral.inRange : FloatLiteral → Bool
  | decimal _ digits exponent => Decimal.magnitude digits exponent ≠ .infinite
  | _ => true

def Value.ofFloat (f : FloatLiteral) : Value := if f.inRange then .float f else .unreadable

mutual
def Value.isReadable : Value → Bool
  | .unreadable => false
  | .array items => itemsReadable items
  | .table entries => entriesReadable entries
  | _ => true
def itemsReadable : List Value → Bool
  | [] => true
  | v :: vs => v.isReadable && itemsReadable vs
def entriesReadable : List (String × Value) → Bool
  | [] => true
  | (_, v) :: rest => v.isReadable && entriesReadable rest
end

/-! ## Entries -/

section Entries

variable {α : Type}

def find? (entries : List (String × α)) (key : String) : Option α :=
  (entries.find? fun entry => entry.1 = key).map Prod.snd

def insert (key : String) (value : α) : List (String × α) → List (String × α)
  | [] => [(key, value)]
  | (k, v) :: rest =>
    if key = k then (key, value) :: rest
    else if key < k then (key, value) :: (k, v) :: rest
    else (k, v) :: insert key value rest

end Entries

/-! ## Numbers as messages show them -/

/-- A floating point number with the fewest digits that read back. -/
def FloatLiteral.text : FloatLiteral → String
  | decimal negative digits exponent =>
    (if negative then "-" else "") ++
      (match Decimal.magnitude digits exponent with
      | .zero => "0.0"
      | .finite m q =>
        let (digits, exponent) := Decimal.shortest m q
        Decimal.positional digits exponent
      | .infinite => "inf")
  | infinity negative => if negative then "-inf" else "inf"
  | nan => "NaN"

end SimApprove.Toml
