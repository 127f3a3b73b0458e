import Mathlib.Algebra.Order.Field.Basic
import Mathlib.Algebra.Order.Field.Power
import Mathlib.Algebra.Order.Field.Rat
import Mathlib.Data.Rat.Lemmas
import Mathlib.Tactic.FieldSimp
import Mathlib.Tactic.Linarith
import Mathlib.Tactic.NormNum
import Mathlib.Tactic.Ring
import RemoteDesktop.Damage.Share

/-!
# Shares are percentages

A share is computed in four roundings: of the two numbers of pixels, of their quotient, of what it leaves of one, and of
that a hundred times. A rounding may bring numbers closer together, but never changes their order (`nearest_mono`), and
it keeps one and a hundred. So a share of a part of the whole is at least zero and at most a hundred.

Main statement: `sharePercent_bounds`.
-/

namespace RemoteDesktop

/-! ### Whole numbers -/

theorem div_le_roundQuotient (num den : Nat) : num / den ≤ roundQuotient num den := by
  simp only [roundQuotient]
  split <;> omega

theorem roundQuotient_le (num den : Nat) : roundQuotient num den ≤ num / den + 1 := by
  simp only [roundQuotient]
  split <;> omega

theorem roundQuotient_one (n : Nat) : roundQuotient n 1 = n := by
  simp [roundQuotient, Nat.mod_one]

/-- Rounding keeps the order of quotients. -/
theorem roundQuotient_mono {a b c d : Nat} (hb : 0 < b) (hd : 0 < d) (h : a * d ≤ c * b) :
    roundQuotient a b ≤ roundQuotient c d := by
  have hq : a / b ≤ c / d := by
    rw [Nat.le_div_iff_mul_le hd]
    refine Nat.le_of_mul_le_mul_right (Nat.le_trans ?_ h) hb
    rw [Nat.mul_right_comm]
    exact Nat.mul_le_mul_right d (Nat.div_mul_le_self a b)
  rcases Nat.lt_or_eq_of_le hq with hlt | heq
  · exact Nat.le_trans (roundQuotient_le a b) (Nat.le_trans hlt (div_le_roundQuotient c d))
  · -- the whole parts agree, so what is rounded are the remainders
    have hrest : a % b * d ≤ c % d * b := by
      have ha : a * d = c / d * (b * d) + a % b * d := by
        rw [← heq, ← Nat.mul_assoc, ← Nat.add_mul, Nat.mul_comm (a / b), Nat.div_add_mod]
      have hc : c * b = c / d * (b * d) + c % d * b := by
        rw [Nat.mul_comm b d, ← Nat.mul_assoc, ← Nat.add_mul, Nat.mul_comm (c / d), Nat.div_add_mod]
      omega
    simp only [roundQuotient, heq]
    split
    next => split <;> omega
    next hup =>
      split
      next hdown =>
        have hleft : b * d ≤ 2 * (a % b) * d := Nat.mul_le_mul_right d (by omega)
        have hright : 2 * (c % d) * b ≤ d * b := Nat.mul_le_mul_right b (by omega)
        have hb' : 2 * (a % b) * d = b * d := by
          rw [Nat.mul_assoc] at hleft hright ⊢
          rw [Nat.mul_comm d b] at hright
          omega
        have hd' : 2 * (c % d) * b = d * b := by
          rw [Nat.mul_assoc] at hb' hright ⊢
          rw [Nat.mul_comm d b] at hright ⊢
          omega
        have := Nat.eq_of_mul_eq_mul_right hd hb'
        have := Nat.eq_of_mul_eq_mul_right hb hd'
        omega
      next => exact Nat.le_refl _

namespace Damage

/-! ### Binary digits -/

theorem two_pow_log2_le {n : Nat} (h : 0 < n) : (2 : ℚ) ^ (n.log2 : ℤ) ≤ n := by
  rw [zpow_natCast]
  exact_mod_cast Nat.log2_self_le (Nat.ne_of_gt h)

theorem lt_two_pow_log2 (n : Nat) : (n : ℚ) < 2 ^ ((n.log2 : ℤ) + 1) := by
  have h : (n : ℚ) < 2 ^ (n.log2 + 1) := by exact_mod_cast Nat.lt_log2_self
  exact_mod_cast h

/-- A power of two as a quotient of whole numbers, one of which is one. -/
theorem two_zpow_eq (e : ℤ) : (2 : ℚ) ^ e = 2 ^ e.toNat / 2 ^ (-e).toNat := by
  rcases Int.le_total 0 e with h | h
  · obtain ⟨n, rfl⟩ := Int.eq_ofNat_of_zero_le h
    simp
  · obtain ⟨n, hn⟩ := Int.eq_ofNat_of_zero_le (Int.neg_nonneg_of_nonpos h)
    obtain rfl : e = -(n : ℤ) := by omega
    simp

/-- Whether a power of two is reached is decided on whole numbers. -/
theorem reached_iff {num den : Nat} (hden : 0 < den) (e : ℤ) :
    (if 0 ≤ e then decide (den * Nat.pow 2 e.toNat ≤ num) else decide (den ≤ num * Nat.pow 2 (-e).toNat)) = true ↔
      (2 : ℚ) ^ e ≤ num / den := by
  have hden' : (0 : ℚ) < den := by exact_mod_cast hden
  have hscale : (2 : ℚ) ^ e ≤ num / den ↔ den * 2 ^ e.toNat ≤ num * 2 ^ (-e).toNat := by
    rw [two_zpow_eq, div_le_div_iff₀ (by positivity) hden', mul_comm]
    exact_mod_cast Iff.rfl
  rw [hscale]
  split
  next h =>
    rw [show (-e).toNat = 0 by omega, Nat.pow_zero, Nat.mul_one]
    exact decide_eq_true_iff
  next h =>
    rw [show e.toNat = 0 by omega, Nat.pow_zero, Nat.mul_one]
    exact decide_eq_true_iff

/-- The exponent is that of the power of two below or at the quotient. -/
theorem exponent_spec {num den : Nat} (hnum : 0 < num) (hden : 0 < den) :
    (2 : ℚ) ^ exponent num den ≤ num / den ∧ (num / den : ℚ) < 2 ^ (exponent num den + 1) := by
  have hden' : (0 : ℚ) < den := by exact_mod_cast hden
  have hbelow : (2 : ℚ) ^ ((num.log2 : ℤ) - den.log2 - 1) ≤ num / den := by
    rw [show (num.log2 : ℤ) - den.log2 - 1 = num.log2 - (den.log2 + 1) by ring, zpow_sub₀ two_ne_zero]
    exact div_le_div₀ (Nat.cast_nonneg num) (two_pow_log2_le hnum) hden' (lt_two_pow_log2 den).le
  have habove : (num / den : ℚ) < 2 ^ ((num.log2 : ℤ) - den.log2 + 1) := by
    rw [show (num.log2 : ℤ) - den.log2 + 1 = num.log2 + 1 - den.log2 by ring, zpow_sub₀ two_ne_zero]
    exact div_lt_div₀ (lt_two_pow_log2 num) (two_pow_log2_le hden) (by positivity) (by positivity)
  have hreached := @reached_iff num den hden ((num.log2 : ℤ) - den.log2)
  simp only [exponent]
  by_cases h : (2 : ℚ) ^ ((num.log2 : ℤ) - den.log2) ≤ num / den
  · rw [if_pos (hreached.2 h)]
    exact ⟨h, habove⟩
  · rw [if_neg (mt hreached.1 h), Int.sub_add_cancel]
    exact ⟨hbelow, not_le.1 h⟩

/-- A number is rounded to binary digits by rounding a quotient to a whole number of units. -/
theorem nearestPositive_eq (num den : Nat) :
    nearestPositive num den =
      roundQuotient (num * 2 ^ (-(exponent num den - 23)).toNat) (den * 2 ^ (exponent num den - 23).toNat) *
        (2 : ℚ) ^ (exponent num den - 23) := by
  simp only [nearestPositive]
  generalize exponent num den - 23 = e
  rw [two_zpow_eq]
  split
  next h =>
    rw [show (-e).toNat = 0 by omega]
    simp
  next h =>
    rw [show e.toNat = 0 by omega, Rat.mkRat_eq_div]
    simp [div_eq_mul_inv]

/-- How many units a number has, before it is rounded. -/
theorem units_eq (num : Nat) {den : Nat} (hden : 0 < den) (e : ℤ) :
    ((num * 2 ^ (-e).toNat : Nat) : ℚ) / ((den * 2 ^ e.toNat : Nat) : ℚ) = num / den / 2 ^ e := by
  have hden' : (den : ℚ) ≠ 0 := by exact_mod_cast hden.ne'
  rw [two_zpow_eq e]
  push_cast
  field_simp

/-- A rounded number lies between the same powers of two as the number. -/
theorem nearestPositive_bounds {num den : Nat} (hnum : 0 < num) (hden : 0 < den) :
    (2 : ℚ) ^ exponent num den ≤ nearestPositive num den ∧ nearestPositive num den ≤ 2 ^ (exponent num den + 1) := by
  obtain ⟨hlow, hhigh⟩ := exponent_spec hnum hden
  have hunits := units_eq num hden (exponent num den - 23)
  rw [nearestPositive_eq]
  generalize exponent num den = e at hlow hhigh hunits ⊢
  have hunit : (0 : ℚ) < 2 ^ (e - 23) := zpow_pos two_pos _
  have hbelow : (2 : ℚ) ^ e = 2 ^ 23 * 2 ^ (e - 23) := by
    rw [← zpow_natCast, ← zpow_add₀ two_ne_zero, show ((23 : Nat) : ℤ) + (e - 23) = e by omega]
  have habove : (2 : ℚ) ^ (e + 1) = 2 ^ 24 * 2 ^ (e - 23) := by
    rw [← zpow_natCast, ← zpow_add₀ two_ne_zero, show ((24 : Nat) : ℤ) + (e - 23) = e + 1 by omega]
  have hpos : 0 < den * 2 ^ (e - 23).toNat := by positivity
  have hpos' : (0 : ℚ) < (den * 2 ^ (e - 23).toNat : Nat) := by exact_mod_cast hpos
  have hleast : 2 ^ 23 ≤ roundQuotient (num * 2 ^ (-(e - 23)).toNat) (den * 2 ^ (e - 23).toNat) := by
    rw [hbelow, ← le_div_iff₀ hunit, ← hunits, le_div_iff₀ hpos'] at hlow
    rw [← roundQuotient_one (2 ^ 23)]
    exact roundQuotient_mono one_pos hpos (by rw [Nat.mul_one]; exact_mod_cast hlow)
  have hgreatest : roundQuotient (num * 2 ^ (-(e - 23)).toNat) (den * 2 ^ (e - 23).toNat) ≤ 2 ^ 24 := by
    rw [habove, ← div_lt_iff₀ hunit, ← hunits, div_lt_iff₀ hpos'] at hhigh
    rw [← roundQuotient_one (2 ^ 24)]
    exact roundQuotient_mono hpos one_pos (by rw [Nat.mul_one]; exact_mod_cast hhigh.le)
  rw [hbelow, habove]
  exact ⟨mul_le_mul_of_nonneg_right (by exact_mod_cast hleast) hunit.le,
    mul_le_mul_of_nonneg_right (by exact_mod_cast hgreatest) hunit.le⟩

/-- Rounding to binary digits keeps the order of positive numbers. -/
theorem nearestPositive_mono {a b c d : Nat} (ha : 0 < a) (hb : 0 < b) (hc : 0 < c) (hd : 0 < d) (h : a * d ≤ c * b) :
    nearestPositive a b ≤ nearestPositive c d := by
  have hle : (a / b : ℚ) ≤ c / d := by
    rw [div_le_div_iff₀ (by exact_mod_cast hb) (by exact_mod_cast hd)]
    exact_mod_cast h
  have hexponent : exponent a b < exponent c d + 1 :=
    (zpow_lt_zpow_iff_right₀ one_lt_two).1 (((exponent_spec ha hb).1.trans hle).trans_lt (exponent_spec hc hd).2)
  rcases Int.lt_or_eq_of_le (Int.le_of_lt_add_one hexponent) with hlt | heq
  · calc nearestPositive a b ≤ 2 ^ (exponent a b + 1) := (nearestPositive_bounds ha hb).2
      _ ≤ 2 ^ exponent c d := zpow_le_zpow_right₀ one_le_two (by omega)
      _ ≤ nearestPositive c d := (nearestPositive_bounds hc hd).1
  · -- in one binade the units are the same
    rw [nearestPositive_eq, nearestPositive_eq, heq]
    refine mul_le_mul_of_nonneg_right ?_ (zpow_pos two_pos _).le
    refine Nat.cast_le.2 (roundQuotient_mono (by positivity) (by positivity) ?_)
    rw [Nat.mul_mul_mul_comm, Nat.mul_mul_mul_comm c]
    exact Nat.mul_le_mul_right _ h

theorem nearest_of_pos {q : ℚ} (h : 0 < q) : nearest q = nearestPositive q.num.toNat q.den := by
  have hnum : 0 < q.num := Rat.num_pos.2 h
  rw [nearest, if_neg hnum.ne', if_pos hnum]

theorem nearest_zero : nearest 0 = 0 := rfl

theorem nearest_nonneg {q : ℚ} (h : 0 ≤ q) : 0 ≤ nearest q := by
  rcases h.eq_or_lt with rfl | hpos
  · exact nearest_zero.ge
  · have hnum : 0 < q.num.toNat := by
      have := Rat.num_pos.2 hpos
      omega
    rw [nearest_of_pos hpos]
    exact (zpow_pos two_pos _).le.trans (nearestPositive_bounds hnum q.den_pos).1

/-- Rounding keeps the order of numbers that are not negative. -/
theorem nearest_mono {p q : ℚ} (hp : 0 ≤ p) (h : p ≤ q) : nearest p ≤ nearest q := by
  rcases hp.eq_or_lt with rfl | hpos
  · exact nearest_zero.trans_le (nearest_nonneg h)
  · have hp' := Rat.num_pos.2 hpos
    have hq' := Rat.num_pos.2 (hpos.trans_le h)
    rw [nearest_of_pos hpos, nearest_of_pos (hpos.trans_le h)]
    refine nearestPositive_mono (by omega) p.den_pos (by omega) q.den_pos ?_
    zify
    rw [Int.toNat_of_nonneg hp'.le, Int.toNat_of_nonneg hq'.le]
    exact (Rat.le_iff p q).1 h

theorem nearest_one : nearest 1 = 1 := by decide +kernel

theorem nearest_hundred : nearest 100 = 100 := by decide +kernel

/-- **A share is a percentage**, in spite of the roundings. -/
theorem sharePercent_bounds {part whole : Nat} (h : part ≤ whole) :
    0 ≤ sharePercent part whole ∧ sharePercent part whole ≤ 100 := by
  rw [sharePercent]
  split
  next => exact ⟨le_rfl, by norm_num⟩
  next =>
    have hpart : 0 ≤ nearest part := nearest_nonneg (Nat.cast_nonneg part)
    have hwhole : nearest part ≤ nearest whole := nearest_mono (Nat.cast_nonneg part) (Nat.cast_le.2 h)
    have hratio : 0 ≤ nearest part / nearest whole := div_nonneg hpart (hpart.trans hwhole)
    have hratio' : nearest (nearest part / nearest whole) ≤ 1 :=
      (nearest_mono hratio (div_le_one_of_le₀ hwhole (hpart.trans hwhole))).trans_eq nearest_one
    have hleft : 0 ≤ 1 - nearest (nearest part / nearest whole) := sub_nonneg.2 hratio'
    have hleft' : nearest (1 - nearest (nearest part / nearest whole)) ≤ 1 :=
      (nearest_mono hleft (sub_le_self 1 (nearest_nonneg hratio))).trans_eq nearest_one
    have hpercent : 0 ≤ nearest (1 - nearest (nearest part / nearest whole)) * 100 :=
      mul_nonneg (nearest_nonneg hleft) (by norm_num)
    refine ⟨nearest_nonneg hpercent, (nearest_mono hpercent ?_).trans_eq nearest_hundred⟩
    linarith

end Damage

end RemoteDesktop
