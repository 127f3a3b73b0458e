/-!
# Rounding

The nearest whole number to a quotient; of two that are equally near, the even one.
-/

namespace RemoteDesktop

/-- The quotient of two whole numbers to the nearest whole number, ties to the even one. -/
def roundQuotient (num den : Nat) : Nat :=
  let q := num / den
  let r := num % den
  if 2 * r < den ∨ (2 * r = den ∧ q % 2 = 0) then q else q + 1

end RemoteDesktop
