import RemoteDesktop.Rounding

/-!
# Too large numbers

Fractional numbers are kept with 53 significant bits, and a number that would need more than 1024 bits
is too large. A careful reader rounds a decimal once, as a whole (`isTooLarge`). A quick one keeps a
whole number of 64 bits and a power of ten, rounds each, and rounds their product again; close to the
limit the two differ (`Scaled.isTooLarge`).
-/

namespace RemoteDesktop.Document

/-- The least number that is too large: the largest of 53 significant bits, and half a unit. -/
def tooLargeFrom : Nat := Nat.pow 2 1024 - Nat.pow 2 970

/-- Whether `digits`, read as a whole number and multiplied by that power of ten, is too large. Powers
of ten far off the limit are not computed. -/
def isTooLarge (digits : List Nat) (exponent : Int) : Bool :=
  let digits := digits.dropWhile (· == 0)
  let magnitude := digits.length + exponent
  if digits.isEmpty ∨ magnitude < 300 then false
  else if 320 < magnitude then true
  else
    let n := digits.foldl (fun n d => 10 * n + d) 0
    if 0 ≤ exponent then tooLargeFrom ≤ n * Nat.pow 10 exponent.toNat
    else tooLargeFrom * Nat.pow 10 (-exponent).toNat ≤ n

/-- The number of 53 significant bits that is nearest to `n`; of two that are equally near, the one
whose last bit is zero. -/
def roundSignificant (n : Nat) : Nat :=
  let unit := Nat.pow 2 (n.log2 + 1 - 53)
  roundQuotient n unit * unit

/-- A decimal while it is read: a whole number of 64 bits and a power of ten. -/
structure Scaled where
  significand : Nat
  exponent : Int
  deriving DecidableEq, Repr

namespace Scaled

/-- The digits of a whole number after those that make `kept`. Digits that no longer fit count only
with their number. -/
def ofWhole (kept : Nat) : List Nat → Scaled
  | [] => ⟨kept, 0⟩
  | d :: digits =>
    if 10 * kept + d < 0x1_0000_0000_0000_0000 then ofWhole (10 * kept + d) digits else ⟨kept, digits.length + 1⟩

/-- The decimal with the digits of a fraction added, up to the first that no longer fits. -/
def withFraction (s : Scaled) : List Nat → Scaled
  | [] => s
  | d :: digits =>
    if 10 * s.significand + d < 0x1_0000_0000_0000_0000 then
      withFraction ⟨10 * s.significand + d, s.exponent - 1⟩ digits
    else s

/-- The largest power of ten that is not too large. -/
def maxExponent : Nat := 308

/-- The product of the significand and the power of ten, each of them rounded, is too large. -/
def isTooLarge (s : Scaled) : Bool :=
  if s.exponent < 0 then false
  else if maxExponent < s.exponent then s.significand ≠ 0
  else tooLargeFrom ≤ roundSignificant s.significand * roundSignificant (Nat.pow 10 s.exponent.toNat)

end Scaled

end RemoteDesktop.Document
