/-!
# Integers of a fixed width

Which integers fit in a number of bits, with and without a sign.
-/

namespace SimApprove.Text

def widthBound (bits : Nat) : Int := Int.ofNat (Nat.pow 2 bits)

def fitsUnsigned (bits : Nat) (n : Int) : Bool := 0 ≤ n && n < widthBound bits

def fitsSigned (bits : Nat) (n : Int) : Bool :=
  -widthBound (bits - 1) ≤ n && n < widthBound (bits - 1)

end SimApprove.Text
