/-!
# Rounding decimals to 53 binary digits

A decimal `digits · 10 ^ exponent` is rounded to the nearest number
`mantissa · 2 ^ power` with a mantissa of 53 bits, ties going to the even
mantissa; below `2 ^ -1022` the power stays at -1074 and the mantissa loses
bits. All of it is exact arithmetic on natural numbers.
-/

namespace SimApprove.Decimal

/-- A mantissa reaches this number only by being rounded up. -/
def mantissaBound : Nat := Nat.pow 2 53

structure Ratio where
  num : Nat
  den : Nat
  deriving DecidableEq, Repr

def Ratio.scale (r : Ratio) (base : Nat) : Int → Ratio
  | .ofNat k => ⟨r.num * base.pow k, r.den⟩
  | .negSucc k => ⟨r.num, r.den * base.pow (k + 1)⟩

def Ratio.lt (r s : Ratio) : Bool := r.num * s.den < s.num * r.den

def Ratio.le (r s : Ratio) : Bool := r.num * s.den ≤ s.num * r.den

/-- The nearest natural number, a half going to the even neighbour. -/
def Ratio.round (r : Ratio) : Nat :=
  let low := r.num / r.den
  let twice := 2 * (r.num % r.den)
  if twice < r.den then low
  else if twice = r.den then low + low % 2
  else low + 1

inductive Magnitude
  | zero
  | finite (mantissa : Nat) (power : Int)
  | infinite
  deriving DecidableEq, Repr

def Magnitude.whole? : Magnitude → Option Nat
  | zero => some 0
  | finite m (.ofNat k) => some (m * Nat.pow 2 k)
  | finite m (.negSucc k) =>
    if m % Nat.pow 2 (k + 1) = 0 then some (m / Nat.pow 2 (k + 1)) else none
  | infinite => none

/-- The least power of two that leaves at most 53 bits before the point. -/
def Ratio.power (r : Ratio) : Int :=
  let k : Int := (Nat.log2 r.num : Int) - Nat.log2 r.den
  let q := if r.lt ((Ratio.mk mantissaBound 1).scale 2 (k - 53)) then k - 53 else k - 52
  max q (-1074)

def Ratio.magnitude (r : Ratio) : Magnitude :=
  let q := r.power
  let m := (r.scale 2 (-q)).round
  let (m, q) := if m = mantissaBound then (mantissaBound / 2, q + 1) else (m, q)
  if m = 0 then .zero
  else if q > 971 then .infinite
  else .finite m q

/-- Decimals with fewer than -400 or more than 400 places before the point are
beyond every rounding, so huge exponents are never worked out. -/
def magnitude (digits : Nat) (exponent : Int) : Magnitude :=
  if digits = 0 then .zero
  else
    let places : Int := exponent + (Nat.toDigits 10 digits).length
    if places > 400 then .infinite
    else if places < -400 then .zero
    else ((Ratio.mk digits 1).scale 10 exponent).magnitude

end SimApprove.Decimal
