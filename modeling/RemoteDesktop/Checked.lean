/-!
# Checked arithmetic

Sizes and coordinates are 32-bit words. A computation on them that would leave the word range, or a
read beyond the end of a buffer, does not wrap and has no default: it stops with a `Fault`. This
module holds the two faults and the word operations that can raise them. Each operation has one
lemma that says exactly when it succeeds, in terms of the natural numbers behind the words.
-/

namespace RemoteDesktop

/-- Why a computation had to stop. -/
inductive Fault where
  /-- A sum, difference or product does not fit its word. -/
  | overflow
  /-- A read or write beyond the end of a buffer. -/
  | outOfBounds
  deriving DecidableEq, Repr

/-- A computation that may stop with a fault. -/
abbrev Checked (α : Type) := Except Fault α

/-- A computation in two steps succeeds exactly if both do. -/
theorem bind_eq_ok_iff {ε α β : Type} {x : Except ε α} {f : α → Except ε β} {b : β} :
    x >>= f = .ok b ↔ ∃ a, x = .ok a ∧ f a = .ok b := by
  cases x with
  | error e => exact ⟨nofun, fun ⟨_, h, _⟩ => nomatch h⟩
  | ok a => exact ⟨fun h => ⟨a, rfl, h⟩, fun ⟨_, ha, h⟩ => Except.ok.inj ha ▸ h⟩

/-- A second step counts only for what the first one comes to. -/
theorem bind_congr_of_ok {ε α β : Type} {x : Except ε α} {f g : α → Except ε β} (h : ∀ a, x = .ok a → f a = g a) :
    x >>= f = x >>= g := by
  cases x with
  | error e => rfl
  | ok a => exact h a rfl

/-- Two computations come to the same end: they fail alike, or both succeed and their results are related. -/
inductive SameEnd {ε α β : Type} (R : α → β → Prop) : Except ε α → Except ε β → Prop where
  | error (e : ε) : SameEnd R (.error e) (.error e)
  | ok {a : α} {b : β} : R a b → SameEnd R (.ok a) (.ok b)

/-- Two answers, each with what goes on after it: they are the same, and what goes on is related. -/
structure SameAnswer {α β γ : Type} (R : β → γ → Prop) (p : α × β) (q : α × γ) : Prop where
  answer : p.1 = q.1
  rest : R p.2 q.2

theorem SameEnd.bind {ε α β γ δ : Type} {R : α → β → Prop} {S : γ → δ → Prop} {x : Except ε α} {y : Except ε β}
    (h : SameEnd R x y) {f : α → Except ε γ} {g : β → Except ε δ}
    (hfg : ∀ a b, x = .ok a → y = .ok b → R a b → SameEnd S (f a) (g b)) : SameEnd S (x >>= f) (y >>= g) := by
  cases h with
  | error e => exact .error e
  | ok hab => exact hfg _ _ rfl rfl hab

theorem SameEnd.bind_same {ε α γ δ : Type} {S : γ → δ → Prop} {x : Except ε α} {f : α → Except ε γ} {g : α → Except ε δ}
    (h : ∀ a, x = .ok a → SameEnd S (f a) (g a)) : SameEnd S (x >>= f) (x >>= g) := by
  cases x with
  | error e => exact .error e
  | ok a => exact h a rfl

theorem SameEnd.bind_eq {ε α β γ : Type} {R : α → β → Prop} {x : Except ε α} {y : Except ε β} (h : SameEnd R x y)
    {f : α → Except ε γ} {g : β → Except ε γ} (hfg : ∀ a b, x = .ok a → y = .ok b → R a b → f a = g b) :
    x >>= f = y >>= g := by
  cases h with
  | error e => rfl
  | ok hab => exact hfg _ _ rfl rfl hab

/-- A list of which everything succeeds. -/
theorem mapM_eq_ok {ε α β : Type} {f : α → Except ε β} {g : α → β} {as : List α} (h : ∀ a ∈ as, f a = .ok (g a)) :
    as.mapM f = .ok (as.map g) := by
  induction as with
  | nil => rfl
  | cons a as ih =>
    rw [List.mapM_cons, h a List.mem_cons_self, ih fun b hb => h b (List.mem_cons_of_mem _ hb)]
    rfl

namespace Word

/-- The word of value `n`, if `n` fits 32 bits. -/
def ofNat (n : Nat) : Checked UInt32 :=
  if n < 0x1_0000_0000 then .ok (UInt32.ofNat n) else .error .overflow

/-- `ofNat` succeeds exactly on the numbers below 2^32, and keeps their value. -/
theorem ofNat_eq_ok_iff {n : Nat} {w : UInt32} : ofNat n = .ok w ↔ w.toNat = n := by
  unfold ofNat
  split
  next h =>
    constructor
    · intro e
      cases e
      exact UInt32.toNat_ofNat_of_lt' h
    · rintro rfl
      simp
  next h =>
    constructor
    · intro e
      cases e
    · rintro rfl
      exact absurd w.toNat_lt h

theorem ofNat_of_lt {n : Nat} (h : n < 0x1_0000_0000) : ofNat n = .ok (UInt32.ofNat n) := if_pos h

/-- The sum of two words. -/
def add (a b : UInt32) : Checked UInt32 := ofNat (a.toNat + b.toNat)

/-- The difference of two words. -/
def sub (a b : UInt32) : Checked UInt32 :=
  if b ≤ a then .ok (a - b) else .error .overflow

/-- The product of two words. -/
def mul (a b : UInt32) : Checked UInt32 := ofNat (a.toNat * b.toNat)

theorem mul_eq_ok_iff {a b c : UInt32} : mul a b = .ok c ↔ c.toNat = a.toNat * b.toNat :=
  ofNat_eq_ok_iff

/-- A sum that fits is a word of its value. -/
theorem exists_add_eq_ok {a b : UInt32} (h : a.toNat + b.toNat < 0x1_0000_0000) :
    ∃ c, add a b = .ok c ∧ c.toNat = a.toNat + b.toNat :=
  ⟨_, ofNat_of_lt h, UInt32.toNat_ofNat_of_lt' h⟩

/-- A product that fits is a word of its value. -/
theorem exists_mul_eq_ok {a b : UInt32} (h : a.toNat * b.toNat < 0x1_0000_0000) :
    ∃ c, mul a b = .ok c ∧ c.toNat = a.toNat * b.toNat :=
  ⟨_, ofNat_of_lt h, UInt32.toNat_ofNat_of_lt' h⟩

theorem sub_of_le {a b : UInt32} (h : b ≤ a) : sub a b = .ok (a - b) := if_pos h

theorem toNat_sub_of_le {a b : UInt32} (h : b ≤ a) : (a - b).toNat = a.toNat - b.toNat :=
  UInt32.toNat_sub_of_le _ _ h

theorem toNat_min (a b : UInt32) : (min a b).toNat = min a.toNat b.toNat := by
  show (if a ≤ b then a else b).toNat = min a.toNat b.toNat
  split
  next h => exact (Nat.min_eq_left (UInt32.le_iff_toNat_le.1 h)).symm
  next h => exact (Nat.min_eq_right (Nat.le_of_not_le (mt UInt32.le_iff_toNat_le.2 h))).symm

theorem toNat_max (a b : UInt32) : (max a b).toNat = max a.toNat b.toNat := by
  show (if a ≤ b then b else a).toNat = max a.toNat b.toNat
  split
  next h => exact (Nat.max_eq_right (UInt32.le_iff_toNat_le.1 h)).symm
  next h => exact (Nat.max_eq_left (Nat.le_of_not_le (mt UInt32.le_iff_toNat_le.2 h))).symm

end Word

end RemoteDesktop
