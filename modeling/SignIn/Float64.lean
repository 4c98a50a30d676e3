-- Floating-point numbers of 64 bits, as far as whole numbers go: of 53 binary
-- digits they keep each, of a longer number the first 53.

namespace SignIn.Float64

/-- The whole number nearest to `n` that has at most 53 binary digits before its zeros; of two that
are equally near the one whose 53 digits are even. -/
def nearest (n : Nat) : Nat :=
  let unit := Nat.pow 2 (n.log2 - 52)
  let low := n / unit
  let beyond := 2 * (n % unit)
  if beyond < unit ∨ (beyond = unit ∧ low % 2 = 0) then low * unit else (low + 1) * unit

/-- The least number that is too great: it is rounded beyond the greatest exponent. -/
def tooGreat : Nat := Nat.pow 2 1024 - Nat.pow 2 970

end SignIn.Float64
