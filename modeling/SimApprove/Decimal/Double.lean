import SimApprove.Decimal.Shortest

/-!
# Doubles

A double is a sign and a magnitude, kept as the word of 64 bits that encodes them, so that
equal numbers of one sign are equal words. `Double.text` writes it with 15 significant digits,
of which the last is rounded half up: positional if the exponent is small, else with a power
of ten.
-/

namespace SimApprove.Decimal

/-- The bits of a magnitude below the sign. A mantissa with its leading bit adds one to the
exponent. -/
def Magnitude.word : Magnitude → Nat
  | zero => 0
  | finite m q => (q + 1074).toNat * Nat.pow 2 52 + m
  | infinite => 2047 * Nat.pow 2 52

structure Double where
  bits : UInt64
  deriving DecidableEq, Repr

namespace Double

def ofMagnitude (negative : Bool) (magnitude : Magnitude) : Double :=
  ⟨UInt64.ofNat ((if negative then Nat.pow 2 63 else 0) + magnitude.word)⟩

def ofInt (n : Int) : Double := ofMagnitude (n < 0) (Decimal.magnitude n.natAbs 0)

def negative (x : Double) : Bool := Nat.pow 2 63 ≤ x.bits.toNat

def magnitude (x : Double) : Magnitude :=
  let word := x.bits.toNat % Nat.pow 2 63
  let exponent := word / Nat.pow 2 52
  let fraction := word % Nat.pow 2 52
  if word = 0 then .zero
  else if 2047 ≤ exponent then .infinite
  else if exponent = 0 then .finite fraction (-1074)
  else .finite (Nat.pow 2 52 + fraction) (exponent - 1075)

def whole? (x : Double) : Option Int :=
  x.magnitude.whole?.map fun n => if x.negative then -(n : Int) else n

/-! ## As text -/

/-- The fewest digits with the same value; the second number is the exponent of the last one. -/
def dropZeros : Nat → Nat → Int → Nat × Int
  | 0, digits, exponent => (digits, exponent)
  | fuel + 1, digits, exponent =>
    if digits % 10 = 0 then dropZeros fuel (digits / 10) (exponent + 1) else (digits, exponent)

def significantDigits : Nat := 15

/-- A value just below a power of ten may be rounded up to it. -/
def significant (value : Ratio) : Nat × Int :=
  let last := value.places - significantDigits
  let scaled := value.scale 10 (-last)
  dropZeros significantDigits ((2 * scaled.num + scaled.den) / (2 * scaled.den)) last

def exponentText (exponent : Int) : String :=
  let digits := toString exponent.natAbs
  (if exponent < 0 then "e-" else "e+") ++ (if digits.length < 2 then "0" ++ digits else digits)

def valueText (value : Ratio) : String :=
  let (digits, last) := significant value
  let after : Int := (Nat.toDigits 10 digits).length - 1
  let exponent := last + after
  if -4 ≤ exponent ∧ exponent < significantDigits then positional digits last
  else positional digits (-after) ++ exponentText exponent

/-- A zero has no sign in its text. -/
def text (x : Double) : String :=
  let sign := if x.negative then "-" else ""
  match x.magnitude with
  | .zero => "0.0"
  | .infinite => sign ++ "Inf"
  | .finite m q => sign ++ valueText ((Ratio.mk m 1).scale 2 q)

end Double

end SimApprove.Decimal
