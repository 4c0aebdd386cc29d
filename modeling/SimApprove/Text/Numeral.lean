/-!
# Reading numbers

The value of digits, and a sign in front of them. `readUnsigned` takes an
optional plus sign and then ASCII digits only: no blanks, no separators, no minus
sign. The value must fit in 64 bits.
-/

namespace SimApprove.Text

def digitsValue (sofar : Nat) : List Char → Nat
  | [] => sofar
  | c :: cs => digitsValue (sofar * 10 + (c.toNat - '0'.toNat)) cs

def isNumeral (cs : List Char) : Bool := !cs.isEmpty && cs.all Char.isDigit

def takeSign : List Char → Bool × List Char
  | '+' :: cs => (false, cs)
  | '-' :: cs => (true, cs)
  | cs => (false, cs)

def negateIf (negative : Bool) (n : Nat) : Int := if negative then -(n : Int) else n

def readSigned? (cs : List Char) : Option Int :=
  let (negative, digits) := takeSign cs
  if isNumeral digits then some (negateIf negative (digitsValue 0 digits)) else none

def hexValue? (c : Char) : Option Nat :=
  if c.isDigit then some (c.toNat - '0'.toNat)
  else if 'a' ≤ c ∧ c ≤ 'f' then some (c.toNat - 'a'.toNat + 10)
  else if 'A' ≤ c ∧ c ≤ 'F' then some (c.toNat - 'A'.toNat + 10)
  else none

def dropPlus : List Char → List Char
  | '+' :: cs => cs
  | cs => cs

def readUnsigned (s : String) : Option UInt64 :=
  let digits := dropPlus s.toList
  if isNumeral digits && digitsValue 0 digits < UInt64.size then
    some (UInt64.ofNat (digitsValue 0 digits))
  else none

end SimApprove.Text
