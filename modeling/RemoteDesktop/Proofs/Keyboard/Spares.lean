import RemoteDesktop.Proofs.Keyboard.Knowledge

/-!
# Spare keycodes that are used up

A typist finds those keycodes spare that have no symbols when it joins. Nobody takes back what was bound, so the
mapping of a display is what all bindings since its beginning have made of it (`SharedDisplay.Worn`), and a keycode
that was once bound to a symbol is spare to none who joins later. A typist replaces its own bindings when it runs
out of spare keycodes; it has no way to replace those of others.

Main statements: `SharedDisplay.no_spare_keycode_iff`, `SharedDisplay.earlier_typist_uses_up_spares`.
-/

namespace RemoteDesktop

/-! ### Keys without symbols -/

namespace KeyboardMapping

variable {m : KeyboardMapping} {keycode : UInt8} {keysym : UInt32}

theorem le_foldl_max_iff {lengths : List Nat} {least n : Nat} :
    n ≤ lengths.foldl max least ↔ n ≤ least ∨ ∃ length ∈ lengths, n ≤ length := by
  induction lengths generalizing least with
  | nil => simp
  | cons length lengths ih =>
    have hmax : n ≤ max least length ↔ n ≤ least ∨ n ≤ length := by omega
    simp [ih, hmax, or_assoc]

/-- A reply has room for symbols exactly if some keycode has any. -/
theorem width_pos_iff : 0 < m.width ↔ ∃ row ∈ m.rows, row ≠ [] := by
  have hfold : 0 < (m.rows.map List.length).foldl max 0 ↔ ∃ row ∈ m.rows, row ≠ [] := by
    rw [Nat.lt_iff_add_one_le, le_foldl_max_iff]
    simp [Nat.one_le_iff_ne_zero]
  rw [← hfold, width]
  omega

theorem width_pos_bind (h : m.Has keycode) : 0 < (m.bind keycode keysym).width := by
  rw [width_pos_iff, bind, if_pos h.1]
  exact ⟨[keysym, keysym], List.mem_set h.2 _, by simp⟩

theorem symbols_mem_rows (h : m.Has keycode) : m.symbols keycode ∈ m.rows := by
  rw [symbols, if_pos h.1, List.getElem?_eq_getElem h.2, Option.getD_some]
  exact List.getElem_mem h.2

/-- The keycode has no symbols, as far as a reply tells, which holds at most 255 of them. -/
def Blank (m : KeyboardMapping) (keycode : UInt8) : Prop :=
  ∀ keysym ∈ (m.symbols keycode).take 255, keysym = 0

theorem Blank.unshifted_eq (h : m.Blank keycode) : m.unshifted keycode = 0 := by
  unfold unshifted
  unfold Blank at h
  cases hrow : m.symbols keycode with
  | nil => rfl
  | cons keysym row =>
    rw [hrow] at h
    exact h keysym (by simp)

/-- The padding of a row does not hide its symbols. -/
theorem all_padRow (h : m.Has keycode) :
    (padRow m.width (m.symbols keycode)).all (· == 0) = true ↔ m.Blank keycode := by
  have hwidth : (m.symbols keycode).take m.width = (m.symbols keycode).take 255 := by
    have hle : (m.symbols keycode).length ≤ (m.rows.map List.length).foldl max 0 :=
      le_foldl_max_iff.2 (.inr ⟨_, List.mem_map_of_mem (symbols_mem_rows h), Nat.le_refl _⟩)
    rw [width, List.take_eq_take_iff]
    omega
  rw [padRow, List.all_append, hwidth]
  simp [Blank]

end KeyboardMapping

/-! ### What a display offers -/

/-- The keycodes that a typist finds spare who joins the display. -/
def Display.spareKeycodes (d : Display) : List UInt8 := (Keymap.ofKeys d.keys).spare

/-- The keycodes that a typist hears of who joins the display. -/
def Display.Lists (d : Display) (keycode : UInt8) : Prop := Keymap.Lists d.mapping d.keycodeCount.toNat keycode

namespace Display

variable {d : Display} {keycode : UInt8} {keysym : UInt32}

theorem mem_keys {key : Keymap.Key} (h : key ∈ d.keys) :
    d.Lists key.keycode ∧ key.symbols = KeyboardMapping.padRow d.mapping.width (d.mapping.symbols key.keycode) :=
  Keymap.mem_keys_iff.1 h

/-- A keycode that is listed has a key. -/
theorem Lists.exists_key (h : d.Lists keycode) : ∃ key ∈ d.keys, key.keycode = keycode :=
  ⟨⟨keycode, KeyboardMapping.padRow d.mapping.width (d.mapping.symbols keycode)⟩,
    Keymap.mem_keys_iff.2 ⟨h, rfl⟩, rfl⟩

theorem mem_spareKeycodes : keycode ∈ d.spareKeycodes ↔ d.Lists keycode ∧ d.mapping.Blank keycode := by
  rw [spareKeycodes, Keymap.ofKeys, List.mem_map]
  constructor
  · rintro ⟨key, hkey, rfl⟩
    obtain ⟨hkey, hspare⟩ := List.mem_filter.1 hkey
    obtain ⟨hlists, hsymbols⟩ := mem_keys hkey
    rw [Keymap.Key.isSpare, hsymbols] at hspare
    exact ⟨hlists, (KeyboardMapping.all_padRow hlists.has).1 hspare⟩
  · rintro ⟨hlists, hblank⟩
    obtain ⟨key, hkey, rfl⟩ := hlists.exists_key
    refine ⟨key, List.mem_filter.2 ⟨hkey, ?_⟩, rfl⟩
    rw [Keymap.Key.isSpare, (mem_keys hkey).2]
    exact (KeyboardMapping.all_padRow hlists.has).2 hblank

theorem types_iff {key : Keymap.Key} (h : key ∈ d.keys) :
    key.types keysym = true ↔ keysym ≠ 0 ∧ d.mapping.unshifted key.keycode = keysym := by
  obtain ⟨hlists, hsymbols⟩ := mem_keys h
  rw [Keymap.Key.types, hsymbols, KeyboardMapping.head?_padRow hlists.width_pos]
  simp [KeyboardMapping.unshifted]

/-- Some key of the display types the symbol. -/
def Types (d : Display) (keysym : UInt32) : Prop := ∃ key ∈ d.keys, key.types keysym = true

theorem types_iff_exists : d.Types keysym ↔
    keysym ≠ 0 ∧ ∃ keycode, d.Lists keycode ∧ d.mapping.unshifted keycode = keysym := by
  constructor
  · rintro ⟨key, hkey, htypes⟩
    obtain ⟨hne, htyped⟩ := (types_iff hkey).1 htypes
    exact ⟨hne, key.keycode, (mem_keys hkey).1, htyped⟩
  · rintro ⟨hne, keycode, hlists, htyped⟩
    obtain ⟨key, hkey, rfl⟩ := hlists.exists_key
    exact ⟨key, hkey, (types_iff hkey).2 ⟨hne, htyped⟩⟩

/-- A typist who has just joined knows no keycode for those symbols that no key types. -/
theorem keycodes_ofKeys_eq_none_iff : (Keymap.ofKeys d.keys).keycodes keysym = none ↔ ¬ d.Types keysym := by
  simp [Keymap.ofKeys, Types]

end Display

/-! ### All bindings there have been -/

namespace Binding

variable {b : Binding} {bindings : List Binding} {m : KeyboardMapping} {keycode : UInt8}

/-- The mapping after some bindings were asked for. They are listed latest first. -/
def applyAll (bindings : List Binding) (m : KeyboardMapping) : KeyboardMapping := bindings.foldr apply m

theorem applyAll_cons : applyAll (b :: bindings) m = b.apply (applyAll bindings m) := rfl

/-- The latest binding of a keycode that was granted. -/
def standing (bindings : List Binding) (keycode : UInt8) : Option Binding :=
  latest 0 (bindings.filter (·.granted)) keycode

theorem standing_cons : standing (b :: bindings) keycode =
    if b.granted ∧ b.keycode = keycode then some b else standing bindings keycode := by
  unfold standing
  cases hgranted : b.granted with
  | false => simp [hgranted]
  | true => simp [hgranted, latest_cons (Nat.zero_le _)]

theorem standing_eq_some (h : standing bindings keycode = some b) : b ∈ bindings ∧ b.keycode = keycode := by
  unfold standing latest at h
  have hmem := List.mem_of_mem_take (List.mem_of_find?_eq_some h)
  have hkeycode := List.find?_some h
  exact ⟨(List.mem_filter.1 hmem).1, eq_of_beq hkeycode⟩

/-! A binding changes what a keycode has, and not which keycodes a reader hears of. -/

theorem firstKeycode_applyAll : (applyAll bindings m).firstKeycode = m.firstKeycode := by
  induction bindings with
  | nil => rfl
  | cons b bindings ih =>
    rw [← ih, applyAll_cons, apply]
    split
    · unfold KeyboardMapping.bind
      split <;> rfl
    · rfl

theorem has_applyAll : (applyAll bindings m).Has keycode ↔ m.Has keycode := by
  induction bindings with
  | nil => exact Iff.rfl
  | cons b bindings ih => exact has_apply.trans ih

theorem symbols_applyAll (h : ∀ b ∈ bindings, m.Has b.keycode) : (applyAll bindings m).symbols keycode =
    match standing bindings keycode with
    | some b => [b.keysym, b.keysym]
    | none => m.symbols keycode := by
  induction bindings with
  | nil => rfl
  | cons b bindings ih =>
    have hb : (applyAll bindings m).Has b.keycode := has_applyAll.2 (h b (.head _))
    have ih := ih fun b hb => h b (.tail _ hb)
    rw [standing_cons, applyAll_cons, apply]
    cases hgranted : b.granted with
    | false => simpa using ih
    | true =>
      rw [if_pos rfl, KeyboardMapping.symbols_bind hb]
      by_cases hkeycode : b.keycode = keycode
      · simp [hkeycode]
      · simpa [hkeycode, Ne.symm hkeycode] using ih

theorem width_pos_applyAll (h : ∀ b ∈ bindings, m.Has b.keycode) (hwidth : 0 < m.width) :
    0 < (applyAll bindings m).width := by
  induction bindings with
  | nil => exact hwidth
  | cons b bindings ih =>
    rw [applyAll_cons, apply]
    split
    · exact KeyboardMapping.width_pos_bind (has_applyAll.2 (h b (.head _)))
    · exact ih fun b hb => h b (.tail _ hb)

end Binding

/-! ### What typists leave behind -/

namespace SharedDisplay

variable {d : Display} {s : SharedDisplay} {refuse : Refusals} {i : Nat} {keysym : UInt32} {keycode : UInt8}
  {pressed : Bool} {t : Typist}

/-- A display is what its bindings have made of it. The keycodes that were bound, and those that a typist holds spare,
had no symbols at first. -/
structure Worn (d : Display) (s : SharedDisplay) : Prop where
  mapping : s.display.mapping = Binding.applyAll s.bindings d.mapping
  lastKeycode : s.display.lastKeycode = d.lastKeycode
  bound : ∀ b ∈ s.bindings, b.keycode ∈ d.spareKeycodes
  spare : ∀ t ∈ s.typists, ∀ keycode ∈ t.keymap.spare, keycode ∈ d.spareKeycodes

theorem worn_unused (d : Display) : Worn d (unused d) := ⟨rfl, rfl, nofun, nofun⟩

namespace Worn

/-- What was bound is a keycode that had no symbols at first. -/
theorem lists_and_blank (h : Worn d s) {b : Binding} (hb : b ∈ s.bindings) :
    d.Lists b.keycode ∧ d.mapping.Blank b.keycode :=
  Display.mem_spareKeycodes.1 (h.bound b hb)

theorem has (h : Worn d s) (b : Binding) (hb : b ∈ s.bindings) : d.mapping.Has b.keycode :=
  (h.lists_and_blank hb).1.has

theorem symbols (h : Worn d s) (keycode : UInt8) : s.display.mapping.symbols keycode =
    match Binding.standing s.bindings keycode with
    | some b => [b.keysym, b.keysym]
    | none => d.mapping.symbols keycode := by
  rw [h.mapping]
  exact Binding.symbols_applyAll h.has

theorem unshifted (h : Worn d s) (keycode : UInt8) : s.display.mapping.unshifted keycode =
    match Binding.standing s.bindings keycode with
    | some b => b.keysym
    | none => d.mapping.unshifted keycode := by
  rw [KeyboardMapping.unshifted, h.symbols keycode]
  split <;> rfl

theorem lists_iff (h : Worn d s) : s.display.Lists keycode ↔ d.Lists keycode := by
  have hfirst : s.display.mapping.firstKeycode = d.mapping.firstKeycode := by
    rw [h.mapping, Binding.firstKeycode_applyAll]
  have hcount : s.display.keycodeCount = d.keycodeCount := by
    rw [Display.keycodeCount, hfirst, h.lastKeycode, Display.keycodeCount]
  have hhas : s.display.mapping.Has keycode ↔ d.mapping.Has keycode := by
    rw [h.mapping, Binding.has_applyAll]
  have hwidth : 0 < s.display.mapping.width ↔ 0 < d.mapping.width := by
    constructor
    · intro hpos
      cases hbindings : s.bindings with
      | nil =>
        rw [h.mapping, hbindings] at hpos
        exact hpos
      | cons b bindings =>
        have hb : b ∈ s.bindings := by simp [hbindings]
        exact (h.lists_and_blank hb).1.width_pos
    · intro hpos
      rw [h.mapping]
      exact Binding.width_pos_applyAll h.has hpos
  unfold Display.Lists
  rw [hcount]
  constructor
  · rintro ⟨hpos, hkeycode, hwithin⟩
    exact ⟨hwidth.1 hpos, hhas.1 hkeycode, hfirst ▸ hwithin⟩
  · rintro ⟨hpos, hkeycode, hwithin⟩
    exact ⟨hwidth.2 hpos, hhas.2 hkeycode, hfirst ▸ hwithin⟩

/-- A keycode is spare to who joins now if it was at first, and stands bound to no symbol. -/
theorem mem_spareKeycodes (h : Worn d s) : keycode ∈ s.display.spareKeycodes ↔
    keycode ∈ d.spareKeycodes ∧ ∀ b, Binding.standing s.bindings keycode = some b → b.keysym = 0 := by
  rw [Display.mem_spareKeycodes, Display.mem_spareKeycodes, h.lists_iff, KeyboardMapping.Blank, h.symbols keycode]
  cases hstanding : Binding.standing s.bindings keycode with
  | none => simp [KeyboardMapping.Blank]
  | some b =>
    obtain ⟨hb, rfl⟩ := Binding.standing_eq_some hstanding
    simp [(h.lists_and_blank hb).2]

/-- A symbol is typed by a key that typed it at first, or by one that stands bound to it. -/
theorem types_iff (h : Worn d s) : s.display.Types keysym ↔
    d.Types keysym ∨
      keysym ≠ 0 ∧ ∃ keycode ∈ d.spareKeycodes, ∃ b,
        Binding.standing s.bindings keycode = some b ∧ b.keysym = keysym := by
  rw [Display.types_iff_exists, Display.types_iff_exists, ← and_or_left]
  refine and_congr_right fun hne => ?_
  constructor
  · rintro ⟨keycode, hlists, htyped⟩
    rw [h.unshifted] at htyped
    cases hstanding : Binding.standing s.bindings keycode with
    | none =>
      rw [hstanding] at htyped
      exact .inl ⟨keycode, h.lists_iff.1 hlists, htyped⟩
    | some b =>
      rw [hstanding] at htyped
      obtain ⟨hb, hkeycode⟩ := Binding.standing_eq_some hstanding
      exact .inr ⟨keycode, hkeycode ▸ h.bound b hb, b, hstanding, htyped⟩
  · rintro (⟨keycode, hlists, htyped⟩ | ⟨keycode, hspare, b, hstanding, hkeysym⟩)
    · refine ⟨keycode, h.lists_iff.2 hlists, ?_⟩
      rw [h.unshifted]
      cases hstanding : Binding.standing s.bindings keycode with
      | none => exact htyped
      | some b =>
        -- a keycode that was bound typed nothing at first
        obtain ⟨hb, rfl⟩ := Binding.standing_eq_some hstanding
        exact absurd (htyped.symm.trans (h.lists_and_blank hb).2.unshifted_eq) hne
    · refine ⟨keycode, h.lists_iff.2 (Display.mem_spareKeycodes.1 hspare).1, ?_⟩
      rw [h.unshifted, hstanding]
      exact hkeysym

/-- A symbol that no key types finds no keycode spare exactly if none typed it at first, and each keycode that was spare
then stands bound to another symbol. -/
theorem used_up_iff (h : Worn d s) : ¬ s.display.Types keysym ∧ s.display.spareKeycodes = [] ↔
    ¬ d.Types keysym ∧
      ∀ keycode ∈ d.spareKeycodes, ∃ b,
        Binding.standing s.bindings keycode = some b ∧ b.keysym ≠ 0 ∧ b.keysym ≠ keysym := by
  rw [h.types_iff, List.eq_nil_iff_forall_not_mem]
  simp only [h.mem_spareKeycodes]
  constructor
  · rintro ⟨htypes, hspare⟩
    refine ⟨fun hfirst => htypes (.inl hfirst), fun keycode hkeycode => ?_⟩
    cases hstanding : Binding.standing s.bindings keycode with
    | none =>
      refine absurd ⟨hkeycode, fun b hb => ?_⟩ (hspare keycode)
      cases hstanding.symm.trans hb
    | some b =>
      have hne : b.keysym ≠ 0 := by
        intro hzero
        refine hspare keycode ⟨hkeycode, fun b' hb' => ?_⟩
        cases hstanding.symm.trans hb'
        exact hzero
      refine ⟨b, rfl, hne, fun hkeysym => htypes (.inr ?_)⟩
      exact ⟨hkeysym ▸ hne, keycode, hkeycode, b, hstanding, hkeysym⟩
  · rintro ⟨htypes, hbound⟩
    constructor
    · rintro (hfirst | ⟨-, keycode, hkeycode, b, hstanding, hkeysym⟩)
      · exact htypes hfirst
      · obtain ⟨b', hstanding', -, hne⟩ := hbound keycode hkeycode
        cases hstanding.symm.trans hstanding'
        exact hne hkeysym
    · rintro keycode ⟨hkeycode, hblank⟩
      obtain ⟨b, hstanding, hne, -⟩ := hbound keycode hkeycode
      exact hne (hblank b hstanding)

/-! Every act keeps it. -/

/-- One typist changes, and holds no more keycodes spare than before. -/
theorem spare_set {bound : List UInt8} (h : ∀ t ∈ s.typists, ∀ keycode ∈ t.keymap.spare, keycode ∈ bound)
    {before : Typist} (hi : s.typists[i]? = some before) (hspare : t.keymap.spare = before.keymap.spare) :
    ∀ t' ∈ s.typists.set i t, ∀ keycode ∈ t'.keymap.spare, keycode ∈ bound := by
  intro t' ht'
  obtain ht' | rfl := List.mem_or_eq_of_mem_set ht'
  · exact h t' ht'
  · rw [hspare]
    exact h before (List.mem_of_getElem? hi)

theorem join (h : Worn d s) (refuse : Refusals) : Worn d (s.join refuse) := by
  obtain ⟨hmapping, hlast, hkeys⟩ := Keymap.load_keeps refuse s.display
  unfold SharedDisplay.join
  split
  next hload =>
    rw [hload] at hmapping hlast
    exact ⟨hmapping.trans h.mapping, hlast.trans h.lastKeycode, h.bound, h.spare⟩
  next hload =>
    rw [hload] at hmapping hlast hkeys
    refine ⟨hmapping.trans h.mapping, hlast.trans h.lastKeycode, h.bound, fun t ht keycode hkeycode => ?_⟩
    obtain ht | ht := List.mem_append.1 ht
    · exact h.spare t ht keycode hkeycode
    · obtain rfl := List.mem_singleton.1 ht
      rw [hkeys _ rfl] at hkeycode
      exact (h.mem_spareKeycodes.1 hkeycode).1

theorem act (h : Worn d s) (hsound : s.Sound) (refuse : Refusals) (a : Act) : Worn d (s.act refuse a).2 := by
  cases a with
  | join => exact h.join refuse
  | take i keysym pressed =>
    simp only [SharedDisplay.act]
    split
    next m since hi =>
      split
      · exact h
      next stroke after htake =>
        have hspare : after.spare = m.spare := by
          obtain ⟨_, -, -, rfl⟩ | ⟨-, -, _, hassign, -⟩ := Keymap.take_eq_ok htake
          · rfl
          · obtain ⟨-, rfl⟩ := Keymap.assignSpare_eq_some_iff.1 hassign
            rfl
        exact ⟨h.mapping, h.lastKeycode, h.bound, spare_set h.spare hi hspare⟩
    · exact h
  | proceed i =>
    rcases hi : s.typists[i]? with _ | ⟨m, _ | ⟨keycode, keysym⟩ | ⟨keycode, keysym, pressed⟩, since⟩
    · simpa only [SharedDisplay.act, hi] using h
    · rwa [act_proceed_free hi]
    · have hspare := ((hsound.knows i _ hi).holds _ rfl).1
      rw [act_proceed_binding hi]
      refine ⟨congrArg (Binding.apply ⟨i, keycode, keysym, _⟩) h.mapping, h.lastKeycode, ?_, spare_set h.spare hi rfl⟩
      intro b hb
      obtain rfl | hb := List.mem_cons.1 hb
      · exact h.spare _ (List.mem_of_getElem? hi) keycode hspare
      · exact h.bound b hb
    · rw [act_proceed_key hi]
      exact ⟨h.mapping, h.lastKeycode, h.bound, spare_set h.spare hi rfl⟩

theorem after (h : Worn d s) (hsound : s.Sound) (history : List (Refusals × Act)) : Worn d (s.after history) := by
  induction history generalizing s with
  | nil => exact h
  | cons deed history ih => exact ih (h.act hsound _ _) (hsound.act _ _)

end Worn

end SharedDisplay

/-! ### Who runs out of spare keycodes -/

namespace Keymap

variable (refuse : Refusals) (d : Display) (m : Keymap) (keysym : UInt32)

/-- No keycode becomes spare, or is spare no longer. Without any, the keymap stays as it is. -/
theorem spare_typeKeysym (pressed : Bool) : (m.typeKeysym refuse keysym pressed d).2.1.spare = m.spare ∧
    (m.spare = [] → (m.typeKeysym refuse keysym pressed d).2.1 = m) := by
  cases htake : m.take keysym pressed with
  | error e =>
    rw [typeKeysym_of_take_error htake]
    exact ⟨rfl, fun _ => rfl⟩
  | ok taken =>
    obtain ⟨keycode, hkeycode, -, -⟩ | ⟨hkeycode, rfl, keycode, hassign, -⟩ := take_eq_ok htake
    · rw [typeKeysym_of_keycode hkeycode]
      exact ⟨rfl, fun _ => rfl⟩
    · obtain ⟨hnext, hafter⟩ := assignSpare_eq_some_iff.1 hassign
      have hspare : taken.2.spare = m.spare := by
        rw [hafter]
        rfl
      have hsome : m.spare ≠ [] := List.ne_nil_of_mem (mem_spare_of_nextSpare? hnext)
      rw [typeKeysym_of_spare hkeycode hassign]
      split
      · exact ⟨hspare, fun h => absurd h hsome⟩
      · exact ⟨hspare, fun h => absurd h hsome⟩

/-- A symbol finds no spare keycode to be pressed with exactly if it has no keycode, and none is spare. -/
theorem typeKeysym_eq_noSpareKeycode_iff :
    (m.typeKeysym refuse keysym true d).1 = .error (.noSpareKeycode keysym) ↔
      m.keycodes keysym = none ∧ m.spare = [] := by
  constructor
  · intro h
    have hspare : m.spare = [] := by
      obtain ⟨hspare, -⟩ | ⟨_, _, -, hinjection⟩ := error_of_typeKeysym (Prod.ext h rfl)
      · exact hspare
      · cases hinjection
    refine ⟨?_, hspare⟩
    cases hkeycode : m.keycodes keysym with
    | none => rfl
    | some keycode =>
      rw [typeKeysym_of_keycode hkeycode] at h
      obtain ⟨_, _, -, hinjection⟩ := strike_eq_error h
      cases hinjection
  · rintro ⟨hkeycode, hspare⟩
    have htake : m.take keysym true = .error (.noSpareKeycode keysym) := by
      simp [take, hkeycode, assignSpare_eq_none_iff.2 hspare]
    rw [typeKeysym_of_take_error htake]

end Keymap

namespace SharedDisplay

variable {s : SharedDisplay} {refuse : Refusals} {i : Nat} {m : Keymap} {since : Nat} {keysym : UInt32} {pressed : Bool}

/-- A typist that has no key in hand types at once. -/
theorem type_of_free (hi : s.typists[i]? = some ⟨m, none, since⟩) :
    s.type refuse i keysym pressed =
      (some ⟨i, keysym, pressed, (m.typeKeysym refuse keysym pressed s.display).1⟩,
        s.settle refuse i ⟨(m.typeKeysym refuse keysym pressed s.display).2.1, none, since⟩
          (m.typeKeysym refuse keysym pressed s.display).2.2) := by
  simp only [type, hi]

/-- What a typist holds spare is settled when it joins. -/
theorem spare_typing (hi : s.typists[i]? = some ⟨m, none, since⟩) (strokes : List Keystroke) :
    ∃ m', (s.typing i strokes).typists[i]? = some ⟨m', none, since⟩ ∧
      m'.spare = m.spare ∧ (m.spare = [] → m' = m) := by
  induction strokes generalizing s m with
  | nil => exact ⟨m, hi, rfl, fun _ => rfl⟩
  | cons k strokes ih =>
    obtain ⟨hspare, hkeeps⟩ := Keymap.spare_typeKeysym k.refuse s.display m k.keysym k.pressed
    have hnext : (s.type k.refuse i k.keysym k.pressed).2.typists[i]? =
        some ⟨(m.typeKeysym k.refuse k.keysym k.pressed s.display).2.1, none, since⟩ := by
      rw [type_of_free hi]
      exact List.getElem?_set_self (List.getElem?_eq_some_iff.1 hi).1
    obtain ⟨m', hi', hspare', hkeeps'⟩ := ih hnext
    refine ⟨m', hi', hspare'.trans hspare, fun hnone => ?_⟩
    rw [hkeeps' (hspare.trans hnone), hkeeps hnone]

/-- Who joins knows the keys of the display. -/
theorem typists_join_never (s : SharedDisplay) :
    (s.join .never).typists[s.typists.length]? = some ⟨Keymap.ofKeys s.display.keys, none, s.bindings.length⟩ := by
  rw [show (s.join .never).typists = s.typists ++ [⟨Keymap.ofKeys s.display.keys, none, s.bindings.length⟩] from rfl]
  exact List.getElem?_concat_length

/-- **A typist runs out of spare keycodes exactly if others have used them up.** Typists have joined a display at any
times and have pressed and released any keys, in strokes that come in any order, while any requests were refused. Then
somebody joins, and has the display to itself. A symbol that it presses, whatever it has typed before, finds no spare
keycode exactly if no key typed the symbol on the unused display, and each keycode that had no symbols then stands bound
to another symbol by one of those who were there before. -/
theorem no_spare_keycode_iff (d : Display) (history : List (Refusals × Act)) (strokes : List Keystroke)
    (refuse : Refusals) (keysym : UInt32) :
    let earlier := (unused d).after history
    let i := earlier.typists.length
    let before := (earlier.join .never).typing i strokes
    (before.type refuse i keysym true).1 = some ⟨i, keysym, true, .error (.noSpareKeycode keysym)⟩ ↔
      ¬ d.Types keysym ∧
        ∀ keycode ∈ d.spareKeycodes, ∃ b,
          Binding.standing earlier.bindings keycode = some b ∧ b.keysym ≠ 0 ∧ b.keysym ≠ keysym := by
  intro earlier i before
  have hworn : Worn d earlier := (worn_unused d).after (sound_unused d) history
  obtain ⟨m, hi, hspare, hkeeps⟩ := spare_typing (typists_join_never earlier) strokes
  have hi : before.typists[i]? = some ⟨m, none, earlier.bindings.length⟩ := hi
  have hanswer : (before.type refuse i keysym true).1 = some ⟨i, keysym, true, .error (.noSpareKeycode keysym)⟩ ↔
      m.keycodes keysym = none ∧ m.spare = [] := by
    rw [type_of_free hi, ← Keymap.typeKeysym_eq_noSpareKeycode_iff refuse before.display]
    simp
  -- with nothing spare, the keymap is still the one that was read
  have hread : m.keycodes keysym = none ∧ m.spare = [] ↔
      ¬ earlier.display.Types keysym ∧ earlier.display.spareKeycodes = [] := by
    rw [hspare, ← Display.keycodes_ofKeys_eq_none_iff]
    refine and_congr_left fun hnone => ?_
    rw [hkeeps hnone]
  exact hanswer.trans (hread.trans hworn.used_up_iff)

/-- A display with two keys: one for the letter a, and one without symbols. -/
def twoKeys : Display where
  size := ⟨64, 32⟩
  initialSize := ⟨64, 32⟩
  mapping := ⟨8, [[0x61], [0]]⟩
  lastKeycode := 9

/-- **An earlier typist uses up the spare keycodes.** On the unused display the symbol can be pressed. After somebody
has joined, has pressed another symbol and released it, the key without symbols has the other symbol, and who joins next
cannot press this one; no request was refused. -/
theorem earlier_typist_uses_up_spares :
    let joined := (unused twoKeys).join .never
    let earlier := joined.typing 0 [⟨.never, 0xe9, true⟩, ⟨.never, 0xe9, false⟩]
    twoKeys.spareKeycodes = [9] ∧
      (joined.type .never 0 0xfc true).1 = some ⟨0, 0xfc, true, .ok 9⟩ ∧
      earlier.display.mapping = ⟨8, [[0x61], [0xe9, 0xe9]]⟩ ∧
      ((earlier.join .never).type .never 1 0xfc true).1 = some ⟨1, 0xfc, true, .error (.noSpareKeycode 0xfc)⟩ :=
  ⟨rfl, rfl, rfl, rfl⟩

end SharedDisplay

end RemoteDesktop
