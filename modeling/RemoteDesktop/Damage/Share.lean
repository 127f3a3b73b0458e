import RemoteDesktop.Rounding

/-!
# Shares in single precision

A share of pixels is reported as a single-precision number of percent. `nearest` is the rounding of
that format for numbers in its normal range: the nearest number with 24 significant binary digits, and
of two equally near ones that with an even last digit. `bits` writes such a number as the word that
stores it.
-/

namespace RemoteDesktop.Damage

/-- The power of two below or at `num / den`, as an exponent. -/
def exponent (num den : Nat) : Int :=
  let e : Int := (num.log2 : Int) - (den.log2 : Int)
  let reached : Bool :=
    if 0 ≤ e then decide (den * Nat.pow 2 e.toNat ≤ num) else decide (den ≤ num * Nat.pow 2 (-e).toNat)
  if reached then e else e - 1

/-- `num / den` to 24 significant binary digits, for a positive numerator. -/
def nearestPositive (num den : Nat) : Rat :=
  let e := exponent num den - 23
  if 0 ≤ e then (roundQuotient num (den * Nat.pow 2 e.toNat) * Nat.pow 2 e.toNat : Nat)
  else mkRat (roundQuotient (num * Nat.pow 2 (-e).toNat) den) (Nat.pow 2 (-e).toNat)

/-- A number to 24 significant binary digits. -/
def nearest (q : Rat) : Rat :=
  if q.num = 0 then 0
  else if 0 < q.num then nearestPositive q.num.toNat q.den
  else -nearestPositive (-q.num).toNat q.den

/-- The word that stores a number of 24 significant binary digits. -/
def bits (q : Rat) : UInt32 :=
  if q.num = 0 then 0
  else
    let num := q.num.natAbs
    let e := exponent num q.den
    let shift := 23 - e
    let significand :=
      if 0 ≤ shift then roundQuotient (num * Nat.pow 2 shift.toNat) q.den
      else roundQuotient num (q.den * Nat.pow 2 (-shift).toNat)
    let sign := if q.num < 0 then 0x8000_0000 else 0
    UInt32.ofNat (sign + (e + 127).toNat * 0x80_0000 + (significand - 0x80_0000))

/-- The percentage of `whole` that `part` leaves, each step rounded; zero if `whole` is. -/
def sharePercent (part whole : Nat) : Rat :=
  if whole = 0 then 0
  else nearest (nearest (1 - nearest (nearest part / nearest whole)) * 100)

end RemoteDesktop.Damage
