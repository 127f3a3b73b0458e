import RemoteDesktop.Proofs.Keyboard.Knowledge

/-!
# Presses that are answered

A press that is answered types its symbol, as far as the typist can know. Two things can come between the typist and
the display:

* the display refuses to bind a keycode, which the keymap has handed out all the same
  (`refused_binding_is_believed`);
* another typist binds a keycode that both have found spare (`rebound_key_types_another_symbol`).

Main statements: `SharedDisplay.types_unless_binding_refused`, `SharedDisplay.types_unless_bound_by_another`.
-/

namespace RemoteDesktop

namespace SharedDisplay

variable {s : SharedDisplay} {refuse : Refusals} {i : Nat} {keysym : UInt32} {keycode : UInt8} {pressed : Bool}

/-! ### One typist on a display of its own -/

/-- Whoever types asks for its own bindings only. -/
theorem mem_bindings_type {b : Binding} (h : b ∈ (s.type refuse i keysym pressed).2.bindings) :
    b ∈ s.bindings ∨ b.typist = i := by
  unfold type at h
  split at h
  · exact (mem_settle h).imp_right And.left
  · exact .inl h

theorem Sound.typing (h : s.Sound) (i : Nat) (strokes : List Keystroke) : (s.typing i strokes).Sound := by
  induction strokes generalizing s with
  | nil => exact h
  | cons stroke strokes ih => exact ih (h.type ..)

theorem typist_of_mem_typing (h : ∀ b ∈ s.bindings, b.typist = i) (strokes : List Keystroke) :
    ∀ b ∈ (s.typing i strokes).bindings, b.typist = i := by
  induction strokes generalizing s with
  | nil => exact h
  | cons stroke strokes ih =>
    refine ih fun b hb => ?_
    exact (mem_bindings_type hb).elim (h b) id

theorem bindings_join (refuse : Refusals) (s : SharedDisplay) : (s.join refuse).bindings = s.bindings := by
  unfold join
  split <;> rfl

/-- Who answers is a typist that had no key in hand, and has none in hand afterwards. -/
theorem type_eq_some {a : Typed} (h : (s.type refuse i keysym pressed).1 = some a) :
    ∃ m since after d, s.typists[i]? = some ⟨m, none, since⟩ ∧
      m.typeKeysym refuse keysym pressed s.display = (a.result, after, d) ∧
      (s.type refuse i keysym pressed).2 = s.settle refuse i ⟨after, none, since⟩ d := by
  unfold type at h
  split at h
  next m since hi =>
    cases h
    exact ⟨m, since, _, _, hi, rfl, by simp only [type, hi]; rfl⟩
  · cases h

/-- **A press that is answered types its symbol, unless the display refused to bind the keycode.** A typist has joined a
display that nobody else uses, and has pressed and released some keys, while any requests were refused. If its next
press is answered with a keycode, this key was pressed, and it types the symbol; or else the typist had asked to bind
the keycode to this symbol, and the display had refused. If the press is not answered with a keycode, none is spare,
or the display has just refused a request. -/
theorem types_unless_binding_refused (d : Display) (loading : Refusals) (strokes : List Keystroke) (refuse : Refusals)
    (keysym : UInt32) (result : Except InputError UInt8) :
    let before := ((unused d).join loading).typing 0 strokes
    let after := (before.type refuse 0 keysym true).2
    (before.type refuse 0 keysym true).1 = some ⟨0, keysym, true, result⟩ →
      match result with
      | .ok keycode =>
        after.display.requests.head? = some (.key keycode true) ∧
          (after.display.mapping.unshifted keycode = keysym ∨
            ∃ b, Binding.latest 0 after.bindings keycode = some b ∧ b.keysym = keysym ∧ b.granted = false)
      | .error e =>
        ((∀ t ∈ before.typists[0]?, t.keymap.spare = []) ∧ e = .noSpareKeycode keysym) ∨
          ∃ r failure, refuse r = some failure ∧ e = .injection failure.text := by
  intro before after hanswer
  have hsound : before.Sound := ((sound_unused d).join loading).typing 0 strokes
  have hown : ∀ b ∈ before.bindings, b.typist = 0 := by
    refine typist_of_mem_typing ?_ strokes
    rw [bindings_join]
    exact nofun
  obtain ⟨m, since, m', d', hi, htype, hafter⟩ := type_eq_some hanswer
  cases result with
  | error e =>
    refine (Keymap.error_of_typeKeysym htype).imp_left fun hspare => ⟨?_, hspare.2⟩
    rintro t ht
    cases hi.symm.trans ht
    exact hspare.1
  | ok keycode =>
    obtain ⟨hkeycode, hhead⟩ := Keymap.keycodes_of_typeKeysym htype
    have hi' : after.typists[0]? = some ⟨m', none, since⟩ := by
      rw [show after = _ from hafter]
      exact List.getElem?_set_self (List.getElem?_eq_some_iff.1 hi).1
    refine ⟨by rw [show after = _ from hafter]; exact hhead, ?_⟩
    obtain htyped | ⟨b, hlast, hasked, hshown⟩ := (hsound.type refuse 0 keysym true).types hi' hkeycode
    · exact .inl htyped
    · have hmem : b ∈ after.bindings := List.mem_of_mem_take (List.mem_of_find?_eq_some hlast)
      have hkeysym := hasked ((mem_bindings_type hmem).elim (hown b) id)
      cases hgranted : b.granted with
      | true => exact .inl ((hshown hgranted).trans hkeysym)
      | false => exact .inr ⟨b, Binding.latest_zero hlast, hkeysym, hgranted⟩

/-- A display with three keys: one for the letter a, and two without symbols. -/
def threeKeys : Display where
  size := ⟨64, 32⟩
  initialSize := ⟨64, 32⟩
  mapping := ⟨8, [[0x61], [0], [0]]⟩
  lastKeycode := 10

/-- Refuses to bind keycodes, and nothing else. -/
def bindingRefused : Refusals
  | .bind _ _ => some (.refused "no")
  | _ => none

/-- A keycode was refused, and the next one is granted. -/
theorem types_unless_binding_refused_next :
    let before := ((unused threeKeys).join .never).typing 0 [⟨bindingRefused, 0xe9, true⟩]
    let after := (before.type .never 0 0xfc true).2
    (before.type .never 0 0xfc true).1 = some ⟨0, 0xfc, true, .ok 10⟩ ∧
      after.display.requests.head? = some (.key 10 true) ∧ after.display.mapping.unshifted 10 = 0xfc := by
  have hanswer : ((((unused threeKeys).join .never).typing 0 [⟨bindingRefused, 0xe9, true⟩]).type .never 0 0xfc true).1 =
      some ⟨0, 0xfc, true, .ok 10⟩ := rfl
  obtain ⟨hhead, htyped | ⟨b, hlast, -, hrefused⟩⟩ :=
    types_unless_binding_refused threeKeys .never [⟨bindingRefused, 0xe9, true⟩] .never 0xfc (.ok 10) hanswer
  · exact ⟨hanswer, hhead, htyped⟩
  · cases hlast
    cases hrefused

/-- **A refused binding is believed.** The display refuses to bind a keycode, and the press fails. The next press of the
same symbol asks for no binding, and is answered: a key is pressed that types nothing. -/
theorem refused_binding_is_believed :
    let joined := (unused threeKeys).join .never
    let failed := joined.type bindingRefused 0 0xe9 true
    let again := failed.2.type .never 0 0xe9 true
    failed.1 = some ⟨0, 0xe9, true, .error (.injection "no")⟩ ∧
      again.1 = some ⟨0, 0xe9, true, .ok 9⟩ ∧
      again.2.display.requests = .key 9 true :: failed.2.display.requests ∧
      again.2.display.mapping.unshifted 9 = 0 :=
  ⟨rfl, rfl, rfl, rfl⟩

/-! ### Several typists -/

/-- A stroke is answered with a keycode when the key has been struck. -/
theorem act_eq_ok (h : s.Sound) {a : Act} (hanswer : (s.act refuse a).1 = some ⟨i, keysym, pressed, .ok keycode⟩) :
    ∃ m since, (s.act refuse a).2.typists[i]? = some ⟨m, none, since⟩ ∧ m.keycodes keysym = some keycode ∧
      (s.act refuse a).2.display.requests.head? = some (.key keycode pressed) := by
  cases a with
  | join => cases hanswer
  | take j keysym' pressed' =>
    simp only [act] at hanswer
    split at hanswer
    · split at hanswer <;> cases hanswer
    · cases hanswer
  | proceed j =>
    rcases hj : s.typists[j]? with _ | ⟨m, _ | stroke, since⟩
    · simp [act, hj] at hanswer
    · rw [act_proceed_free hj] at hanswer
      cases hanswer
    · cases stroke with
      | binding keycode' keysym' =>
        rw [act_proceed_binding hj] at hanswer
        obtain ⟨failure, -, hfailure⟩ := Option.map_eq_some_iff.1 hanswer
        cases hfailure
      | key keycode' keysym' pressed' =>
        have hheld := (h.knows j _ hj).holds _ rfl
        rw [act_proceed_key hj] at hanswer ⊢
        obtain ⟨rfl, rfl, rfl, hstrike⟩ := Typed.mk.inj (Option.some_inj.1 hanswer)
        obtain rfl := Keymap.strike_eq_ok hstrike
        exact ⟨m, since, List.getElem?_set_self (List.getElem?_eq_some_iff.1 hj).1, hheld, rfl⟩

/-- A binding is noted as it was granted. -/
theorem mem_bindings_act {a : Act} {b : Binding} (h : b ∈ (s.act refuse a).2.bindings) :
    b ∈ s.bindings ∨ b.granted = (refuse (.bind b.keycode b.keysym)).isNone := by
  cases a with
  | join => exact .inl (bindings_join refuse s ▸ h)
  | take j keysym' pressed' =>
    simp only [act] at h
    split at h
    · split at h <;> exact .inl h
    · exact .inl h
  | proceed j =>
    simp only [act] at h
    split at h
    · split at h <;> exact (mem_settle h).imp_right And.right
    · exact .inl h

theorem Sound.granting (h : s.Sound) (acts : List Act) : (s.granting acts).Sound := by
  induction acts generalizing s with
  | nil => exact h
  | cons a acts ih => exact ih (h.act _ a)

theorem granted_of_mem_granting (h : ∀ b ∈ s.bindings, b.granted = true) (acts : List Act) :
    ∀ b ∈ (s.granting acts).bindings, b.granted = true := by
  induction acts generalizing s with
  | nil => exact h
  | cons a acts ih => exact ih fun b hb => (mem_bindings_act hb).elim (h b) id

/-- **A press that is answered types its symbol, unless another typist has bound the keycode.** Typists have joined a
display at any times, and each has pressed and released some keys, in strokes that come in any order; no request was
refused. If an act completes a press, this key was pressed, and it types the symbol; or else the latest typist to bind
the keycode since this one joined was another, and the key types the symbol of the other. -/
theorem types_unless_bound_by_another (d : Display) (acts : List Act) (a : Act) (i : Nat) (keysym : UInt32)
    (keycode : UInt8) :
    let before := (unused d).granting acts
    let after := (before.act .never a).2
    (before.act .never a).1 = some ⟨i, keysym, true, .ok keycode⟩ →
      after.display.requests.head? = some (.key keycode true) ∧
        ∃ t, after.typists[i]? = some t ∧
          (after.display.mapping.unshifted keycode = keysym ∨
            ∃ b, Binding.latest t.since after.bindings keycode = some b ∧ b.typist ≠ i ∧
              after.display.mapping.unshifted keycode = b.keysym) := by
  intro before after hanswer
  have hsound : before.Sound := (sound_unused d).granting acts
  obtain ⟨m, since, hi, hkeycode, hhead⟩ := act_eq_ok hsound hanswer
  refine ⟨hhead, _, hi, ?_⟩
  obtain htyped | ⟨b, hlast, hasked, hshown⟩ := (hsound.act .never a).types hi hkeycode
  · exact .inl htyped
  · have hmem : b ∈ after.bindings := List.mem_of_mem_take (List.mem_of_find?_eq_some hlast)
    have hbefore : ∀ b ∈ before.bindings, b.granted = true := granted_of_mem_granting (List.forall_mem_nil _) acts
    have hshown := hshown ((mem_bindings_act hmem).elim (hbefore b) id)
    by_cases hown : b.typist = i
    · exact .inl (hshown.trans (hasked hown))
    · exact .inr ⟨b, hlast, hown, hshown⟩

/-- Two typists have joined; the first presses and releases the key of one symbol, then the second presses the key of
another. -/
def inTurn : List Act :=
  [.join, .join, .take 0 0xe9 true, .proceed 0, .proceed 0, .take 0 0xe9 false, .proceed 0, .take 1 0xfc true, .proceed 1]

/-- What the second typist presses is right: it has just bound the keycode. -/
theorem types_unless_bound_by_another_second :
    let before := (unused threeKeys).granting inTurn
    let after := (before.act .never (.proceed 1)).2
    (before.act .never (.proceed 1)).1 = some ⟨1, 0xfc, true, .ok 9⟩ ∧
      after.display.requests.head? = some (.key 9 true) ∧ after.display.mapping.unshifted 9 = 0xfc := by
  have hanswer : (((unused threeKeys).granting inTurn).act .never (.proceed 1)).1 =
      some ⟨1, 0xfc, true, .ok 9⟩ := rfl
  obtain ⟨hhead, t, ht, htyped | ⟨b, hlast, hother, -⟩⟩ :=
    types_unless_bound_by_another threeKeys inTurn (.proceed 1) 1 0xfc 9 hanswer
  · exact ⟨hanswer, hhead, htyped⟩
  · cases ht
    cases hlast
    exact absurd rfl hother

/-- **A typist presses what another has bound.** The first typist presses the key of its symbol once more, and is
answered; no request was refused, and the key types the symbol of the second. -/
theorem rebound_key_types_another_symbol :
    let before := (unused threeKeys).granting (inTurn ++ [.proceed 1, .take 0 0xe9 true])
    let after := (before.act .never (.proceed 0)).2
    (before.act .never (.proceed 0)).1 = some ⟨0, 0xe9, true, .ok 9⟩ ∧
      after.display.requests.head? = some (.key 9 true) ∧ after.display.mapping.unshifted 9 = 0xfc :=
  ⟨rfl, rfl, rfl⟩

end SharedDisplay

end RemoteDesktop
