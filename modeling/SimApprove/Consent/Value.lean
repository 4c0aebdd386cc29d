import SimApprove.Decimal.Double
import SimApprove.Text.Measure
import SimApprove.Text.Numeral
import SimApprove.Text.Width

/-!
# Stored values

What a column of a consent table holds, and how the declared type of a column changes a value
on its way in: a text column turns numbers into text, a numeric column turns texts that read as
numbers into numbers and whole reals into integers, a real column turns all of these into
reals. Integers have 64 bits, and a real that is not a number is never stored.
-/

namespace SimApprove.Consent

open Decimal (Double)

inductive Value
  | null
  | integer (value : Int)
  | real (value : Double)
  | text (value : String)
  | blob (bytes : List UInt8)
  deriving DecidableEq, Repr

/-- Where values are compared, a whole real is the integer. -/
def Value.asKey : Value → Value
  | real x =>
    match x.whole? with
    | some n => if Text.fitsSigned 64 n then integer n else real x
    | none => real x
  | value => value

inductive Affinity
  | text
  | numeric
  | real
  | blob
  deriving DecidableEq, Repr

def Affinity.ofType (type : String) : Affinity :=
  let upper := String.ofList (type.toList.map Char.toUpper)
  if Text.contains upper "INT" then .numeric
  else if ["CHAR", "CLOB", "TEXT"].any (Text.contains upper ·) then .text
  else if upper = "" ∨ Text.contains upper "BLOB" then .blob
  else if ["REAL", "FLOA", "DOUB"].any (Text.contains upper ·) then .real
  else .numeric

/-! ## Numbers in texts -/

def isBlank (c : Char) : Bool := c = ' ' || ('\t' ≤ c && c ≤ '\r')

def trimBlanks (cs : List Char) : List Char :=
  ((cs.dropWhile isBlank).reverse.dropWhile isBlank).reverse

def readExponent? : List Char → Option Int
  | [] => some 0
  | c :: cs => if c = 'e' ∨ c = 'E' then Text.readSigned? cs else none

def takeFraction : List Char → List Char × List Char
  | '.' :: cs => (cs.takeWhile Char.isDigit, cs.dropWhile Char.isDigit)
  | cs => ([], cs)

def readReal? (cs : List Char) : Option Double := do
  let (negative, cs) := Text.takeSign cs
  let whole := cs.takeWhile Char.isDigit
  let (fraction, rest) := takeFraction (cs.dropWhile Char.isDigit)
  if whole = [] ∧ fraction = [] then none
  let exponent ← readExponent? rest
  let digits := Text.digitsValue 0 (whole ++ fraction)
  some (.ofMagnitude negative (Decimal.magnitude digits (exponent - fraction.length)))

/-- A real becomes an integer if none is lost by it. -/
def Value.ofReal (x : Double) : Value :=
  match x.whole? with
  | some n => if n.natAbs < Nat.pow 2 63 then .integer n else .real x
  | none => .real x

/-- The number that a text stands for, with blanks around it. Digits alone are read exactly if
the number is not too large. -/
def readNumber? (s : String) : Option Value :=
  let cs := trimBlanks s.toList
  match (Text.readSigned? cs).filter (Text.fitsSigned 64 ·) with
  | some n => some (.integer n)
  | none => (readReal? cs).map .ofReal

/-! ## Affinity -/

def Value.toNumber : Value → Value
  | text s => (readNumber? s).getD (text s)
  | real x => ofReal x
  | value => value

def Value.toReal (value : Value) : Value :=
  match value.toNumber with
  | integer n => real (.ofInt n)
  | value => value

def Value.toText : Value → Value
  | integer n => text (toString n)
  | real x => text x.text
  | value => value

def Affinity.apply : Affinity → Value → Value
  | text => Value.toText
  | numeric => Value.toNumber
  | real => Value.toReal
  | blob => id

theorem Value.ofReal_ne_null (x : Double) : ofReal x ≠ null := by
  unfold ofReal
  split
  · split <;> simp
  · simp

theorem readNumber?_ne_null {s : String} {value : Value} (h : readNumber? s = some value) :
    value ≠ .null := by
  simp only [readNumber?] at h
  split at h
  · cases h
    simp
  · obtain ⟨x, -, rfl⟩ := Option.map_eq_some_iff.mp h
    exact Value.ofReal_ne_null x

theorem Value.toNumber_ne_null {value : Value} (h : value ≠ null) : value.toNumber ≠ null := by
  cases value with
  | null => exact absurd rfl h
  | real x => exact ofReal_ne_null x
  | text s =>
    cases hr : readNumber? s with
    | none => simp [toNumber, hr]
    | some value => simpa [toNumber, hr] using readNumber?_ne_null hr
  | integer | blob => simp [toNumber]

theorem Value.toReal_ne_null {value : Value} (h : value ≠ null) : value.toReal ≠ null := by
  have hn := toNumber_ne_null h
  unfold toReal
  split
  · simp
  · exact hn

theorem Affinity.apply_ne_null {affinity : Affinity} {value : Value} (h : value ≠ .null) :
    affinity.apply value ≠ .null := by
  cases affinity with
  | text => cases value <;> simp_all [Affinity.apply, Value.toText]
  | numeric => exact Value.toNumber_ne_null h
  | real => exact Value.toReal_ne_null h
  | blob => exact h

end SimApprove.Consent
