import SimApprove.Decimal.Binary64

/-!
# The fewest digits that read back

A binary number is written with the fewest decimal digits that round back to
it; of those with that many digits the nearest is taken, and of two equally
near the greater. The text is always positional and always has a point.
-/

namespace SimApprove.Decimal

/-- The reals that round to a number: from `low` to `high`, with the ends
belonging to it exactly if the mantissa is even. -/
structure Basin where
  low : Ratio
  high : Ratio
  closed : Bool

def Basin.contains (b : Basin) (r : Ratio) : Bool :=
  if b.closed then b.low.le r && r.le b.high else b.low.lt r && r.lt b.high

/-- Below a power of two the neighbours lie twice as close. -/
def basin (m : Nat) (q : Int) : Basin :=
  let below := if m = mantissaBound / 2 ∧ q > -1074 then 1 else 2
  { low := (Ratio.mk (4 * m - below) 1).scale 2 (q - 2)
    high := (Ratio.mk (4 * m + 2) 1).scale 2 (q - 2)
    closed := m % 2 = 0 }

/-- The number of decimal digits before the point: `10 ^ (n - 1) ≤ r < 10 ^ n`. -/
def Ratio.places (r : Ratio) : Int :=
  let n : Int := (Nat.toDigits 10 r.num).length - (Nat.toDigits 10 r.den).length
  if r.lt ((Ratio.mk 1 1).scale 10 n) then n else n + 1

/-- The point of the grid `10 ^ exponent` that lies in the basin, the nearer of
the value's two neighbours on the grid if both do. -/
def gridPoint? (b : Basin) (value : Ratio) (exponent : Int) : Option Nat :=
  let scaled := value.scale 10 (-exponent)
  let low := scaled.num / scaled.den
  let inside (n : Nat) : Bool := b.contains ((Ratio.mk n 1).scale 10 exponent)
  match inside low, inside (low + 1) with
  | true, true => if 2 * (scaled.num % scaled.den) < scaled.den then some low else some (low + 1)
  | true, false => some low
  | false, true => some (low + 1)
  | false, false => none

/-- Digits and exponent of the first grid, from coarse to fine, with such a point.
Seventeen digits always suffice. A value just below a power of ten may round up
to it, which then needs one digit only. -/
def shortestFrom (b : Basin) (value : Ratio) (places : Int) : Nat → Nat → Nat × Int
  | 0, count =>
    let exponent := places - count
    ((value.scale 10 (-exponent)).round, exponent)
  | tries + 1, count =>
    match gridPoint? b value (places - count) with
    | some n => if n = Nat.pow 10 count then (1, places) else (n, places - count)
    | none => shortestFrom b value places tries (count + 1)

def shortest (m : Nat) (q : Int) : Nat × Int :=
  let value := (Ratio.mk m 1).scale 2 q
  shortestFrom (basin m q) value value.places 17 1

def positional (digits : Nat) (exponent : Int) : String :=
  let ds := Nat.toDigits 10 digits
  match exponent with
  | .ofNat k => String.ofList (ds ++ List.replicate k '0' ++ ['.', '0'])
  | .negSucc k =>
    let after := k + 1
    let ds := List.replicate (after + 1 - ds.length) '0' ++ ds
    String.ofList (ds.take (ds.length - after) ++ ['.'] ++ ds.drop (ds.length - after))

end SimApprove.Decimal
