-- The binary digits of the circle number after the point, by Machin's
-- formula in whole numbers.

namespace SignIn.Password

/-- Sums `power / n - power / square / (n + 2) + …`, the series of an arc tangent, in fixed point:
`power` holds the next odd power of the argument. -/
def arctanFrom (square : Nat) (power n : Nat) (positive : Bool) (sum : Int) : Nat → Int
  | 0 => sum
  | terms + 1 =>
    let term : Int := power / n
    arctanFrom square (power / square) (n + 2) (!positive)
      (if positive then sum + term else sum - term) terms

/-- The arc tangent of `1 / x`, times `one`. -/
def arctanInv (one x terms : Nat) : Int := arctanFrom (x * x) (one / x) 1 true 0 terms

/-- Bits beyond the wanted ones that soak up the rounding of the series. -/
def guardBits : Nat := 64

/-- The first `bits` binary digits of the circle number after the point, as one number. -/
def piFraction (bits : Nat) : Nat :=
  let one := Nat.pow 2 (bits + guardBits)
  let terms := (bits + guardBits) / 4 + 1
  let pi := (16 * arctanInv one 5 terms - 4 * arctanInv one 239 terms).toNat
  (pi % one) / Nat.pow 2 guardBits

/-- The first `count` words of 32 bits after the point. -/
def piWords (count : Nat) : List UInt32 :=
  let fraction := piFraction (32 * count)
  (List.range count).map fun i => UInt32.ofNat (fraction / Nat.pow 2 (32 * (count - 1 - i)))

end SignIn.Password
