import RemoteDesktop.Bytes

/-!
# Numerals

Natural numbers in a base of at most sixteen. `write` uses small letters and no needless zeros; a
`Rule` says what a reader accepts: how many digits, whether zeros may lead, and how large the number
may be. A rule reads back what is written, `Rule.read?_write`, and takes no digit of what follows.
-/

namespace RemoteDesktop.Text.Numeral

/-- The value of a digit of either case, if it is one of the base. -/
def digitValue? (base : Nat) (c : Char) : Option Nat := (Bytes.hexValue? c).filter (· < base)

/-- The character is a digit of the base. -/
def isDigit (base : Nat) (c : Char) : Bool := (digitValue? base c).isSome

/-- The digit of a value below sixteen. -/
def digit (n : Nat) : Char := Bytes.hexDigit false n

/-- The number a run of digits writes, most significant digit first. -/
def value (base : Nat) (digits : List Char) : Nat :=
  digits.foldl (fun n c => base * n + (digitValue? base c).getD 0) 0

/-- The digits of a number, most significant first and at least one. -/
def write (base n : Nat) : List Char :=
  if n < base ∨ base < 2 then [digit n] else write base (n / base) ++ [digit (n % base)]
termination_by n
decreasing_by exact Nat.div_lt_self (by omega) (by omega)

/-- The digits at the front of a text. -/
def run (base : Nat) (text : List Char) : List Char := text.takeWhile (isDigit base)

/-- What a reader of numbers accepts. -/
structure Rule where
  base : Nat
  /-- The greatest number of digits, if there is one. -/
  maxDigits : Option Nat
  /-- Whether a number of several digits may begin with a zero. -/
  leadingZeros : Bool
  /-- All numbers are below the limit. -/
  limit : Nat

namespace Rule

/-- The digits are those of a number that the rule accepts. -/
def allows (rule : Rule) (digits : List Char) : Bool :=
  !digits.isEmpty && rule.maxDigits.all (digits.length ≤ ·)
    && (rule.leadingZeros || digits.length = 1 || digits.head? != some '0')
    && value rule.base digits < rule.limit

/-- The number at the front of a text, all digits there taken together, and what follows. -/
def read? (rule : Rule) (text : List Char) : Option (Nat × List Char) :=
  let digits := run rule.base text
  if rule.allows digits then some (value rule.base digits, text.drop digits.length) else none

end Rule

/-! ### Reading what is written -/

theorem digitValue?_digit {base n : Nat} (hn : n < base) (hb : base ≤ 16) :
    digitValue? base (digit n) = some n := by
  have : ∀ n : Fin 16, digitValue? 16 (digit n) = some n.val := by decide
  have h := this ⟨n, by omega⟩
  rw [digitValue?] at h ⊢
  simp only [Option.filter_eq_some_iff] at h ⊢
  exact ⟨h.1, by simpa using hn⟩

theorem isDigit_digit {base n : Nat} (hn : n < base) (hb : base ≤ 16) :
    isDigit base (digit n) = true := by
  rw [isDigit, digitValue?_digit hn hb]
  rfl

theorem digit_ne_zero {n : Nat} (hn : n < 16) (h : n ≠ 0) : digit n ≠ '0' := by
  have : ∀ n : Fin 16, n.val ≠ 0 → digit n ≠ '0' := by decide
  exact this ⟨n, hn⟩ h

theorem value_append_singleton (base : Nat) (digits : List Char) (c : Char) :
    value base (digits ++ [c]) = base * value base digits + (digitValue? base c).getD 0 := by
  simp [value, List.foldl_append]

theorem write_of_lt {base n : Nat} (h : n < base) : write base n = [digit n] := by
  rw [write, if_pos (Or.inl h)]

theorem write_of_le {base n : Nat} (hb : 2 ≤ base) (h : base ≤ n) :
    write base n = write base (n / base) ++ [digit (n % base)] := by
  rw [write, if_neg (by omega)]

theorem write_ne_nil (base n : Nat) : write base n ≠ [] := by
  rw [write]
  split <;> simp

/-- Every character written is a digit. -/
theorem isDigit_of_mem_write {base n : Nat} (hb : 2 ≤ base) (hb' : base ≤ 16) :
    ∀ c ∈ write base n, isDigit base c = true := by
  induction n using Nat.strongRecOn with
  | ind n ih =>
    rcases Nat.lt_or_ge n base with h | h
    · rw [write_of_lt h]
      simpa using isDigit_digit h hb'
    · rw [write_of_le hb h]
      intro c hc
      rcases List.mem_append.1 hc with hc | hc
      · exact ih _ (Nat.div_lt_self (by omega) (by omega)) c hc
      · rw [List.mem_singleton.1 hc]
        exact isDigit_digit (Nat.mod_lt _ (by omega)) hb'

/-- The digits written have the number as their value. -/
theorem value_write {base : Nat} (hb : 2 ≤ base) (hb' : base ≤ 16) (n : Nat) :
    value base (write base n) = n := by
  induction n using Nat.strongRecOn with
  | ind n ih =>
    rcases Nat.lt_or_ge n base with h | h
    · rw [write_of_lt h]
      simp [value, digitValue?_digit h hb']
    · rw [write_of_le hb h, value_append_singleton, ih _ (Nat.div_lt_self (by omega) (by omega)),
        digitValue?_digit (Nat.mod_lt _ (by omega)) hb']
      exact Nat.div_add_mod n base

/-- Only the numeral of zero begins with a zero. -/
theorem head?_write {base : Nat} (hb : 2 ≤ base) (hb' : base ≤ 16) {n : Nat} (hn : n ≠ 0) :
    (write base n).head? ≠ some '0' := by
  induction n using Nat.strongRecOn with
  | ind n ih =>
    rcases Nat.lt_or_ge n base with h | h
    · rw [write_of_lt h]
      simpa using digit_ne_zero (by omega) hn
    · rw [write_of_le hb h, List.head?_append]
      have := ih (n / base) (Nat.div_lt_self (by omega) (by omega))
        (Nat.ne_of_gt (Nat.div_pos h (by omega)))
      cases hw : (write base (n / base)).head? with
      | none => exact absurd (List.head?_eq_none_iff.1 hw) (write_ne_nil _ _)
      | some c => simpa [hw] using this

/-- A number below `base ^ k` has at most `k` digits. -/
theorem length_write_le {base : Nat} (hb : 2 ≤ base) {k n : Nat} (hk : 1 ≤ k) (h : n < Nat.pow base k) :
    (write base n).length ≤ k := by
  induction k generalizing n with
  | zero => omega
  | succ k ih =>
    rcases Nat.lt_or_ge n base with hn | hn
    · rw [write_of_lt hn]
      simp
    · rw [write_of_le hb hn, List.length_append, List.length_singleton]
      have h : n < Nat.pow base k * base := h
      have hk : 1 ≤ k := by
        rcases Nat.eq_zero_or_pos k with rfl | hk
        · have h : n < 1 * base := h
          omega
        · exact hk
      have := ih hk (Nat.div_lt_of_lt_mul (by rwa [Nat.mul_comm] at h))
      omega

theorem run_append {base : Nat} {digits rest : List Char}
    (hd : ∀ c ∈ digits, isDigit base c = true) (hr : run base rest = []) :
    run base (digits ++ rest) = digits := by
  induction digits with
  | nil => simpa using hr
  | cons c digits ih =>
    rw [run, List.cons_append, List.takeWhile_cons, if_pos (hd c (by simp))]
    exact congrArg _ (ih fun c hc => hd c (by simp [hc]))

namespace Rule

/-- The rule can read every number below its limit. -/
structure Fits (rule : Rule) : Prop where
  two_le : 2 ≤ rule.base
  le_sixteen : rule.base ≤ 16
  enough : ∀ k ∈ rule.maxDigits, 1 ≤ k ∧ rule.limit ≤ Nat.pow rule.base k

/-- A written number is read back, and what follows is left if it does not begin with a digit. -/
theorem read?_write {rule : Rule} (fits : rule.Fits) {n : Nat} (hn : n < rule.limit)
    {rest : List Char} (hr : run rule.base rest = []) :
    rule.read? (write rule.base n ++ rest) = some (n, rest) := by
  have hd : ∀ c ∈ write rule.base n, isDigit rule.base c = true :=
    isDigit_of_mem_write fits.two_le fits.le_sixteen
  have hv : value rule.base (write rule.base n) = n := value_write fits.two_le fits.le_sixteen n
  have hmax : rule.maxDigits.all ((write rule.base n).length ≤ ·) = true := by
    cases h : rule.maxDigits with
    | none => rfl
    | some k =>
      obtain ⟨hk, hle⟩ := fits.enough k (by simp [h])
      simpa using length_write_le fits.two_le hk (Nat.lt_of_lt_of_le hn hle)
  have hzero : ((write rule.base n).length = 1 ∨ (write rule.base n).head? ≠ some '0') := by
    rcases Nat.eq_zero_or_pos n with rfl | h
    · left
      have := fits.two_le
      rw [write_of_lt (by omega)]
      rfl
    · exact Or.inr (head?_write fits.two_le fits.le_sixteen (by omega))
  have hallows : rule.allows (write rule.base n) = true := by
    simp only [allows, Bool.and_eq_true, Bool.or_eq_true, decide_eq_true_eq, bne_iff_ne, hv]
    refine ⟨⟨⟨by simpa using write_ne_nil _ _, hmax⟩, ?_⟩, hn⟩
    rcases hzero with h | h
    · exact Or.inl (Or.inr h)
    · exact Or.inr h
  simp only [read?, run_append hd hr, hallows, if_true, hv, List.drop_left]

end Rule

end RemoteDesktop.Text.Numeral
