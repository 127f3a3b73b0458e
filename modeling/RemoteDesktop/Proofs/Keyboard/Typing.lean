import RemoteDesktop.Keyboard.Sharing
import RemoteDesktop.Proofs.Keyboard.Keymap

/-!
# How a symbol is typed

What a binding does to the keys of a display, what a typist takes in hand for a symbol, and what becomes of each
request. Typing at once (`Keymap.typeKeysym`) comes to one of three things: there is no key for the symbol, the keymap
has one, or a spare keycode is bound and pressed.
-/

namespace RemoteDesktop

/-! ### One binding -/

namespace KeyboardMapping

theorem has_bind {m : KeyboardMapping} {keycode other : UInt8} {keysym : UInt32} :
    (m.bind keycode keysym).Has other ↔ m.Has other := by
  unfold bind Has
  split <;> simp

/-- A keycode without a row cannot be bound. -/
theorem bind_of_not_has {m : KeyboardMapping} {keycode : UInt8} (h : ¬ m.Has keycode) (keysym : UInt32) :
    m.bind keycode keysym = m := by
  unfold bind
  split
  next hfirst =>
    rw [List.set_eq_of_length_le (Nat.le_of_not_lt fun hlt => h ⟨hfirst, hlt⟩)]
  next => rfl

theorem unshifted_bind_of_ne {m : KeyboardMapping} {keycode other : UInt8} (hne : other ≠ keycode)
    (keysym : UInt32) : (m.bind keycode keysym).unshifted other = m.unshifted other := by
  by_cases h : m.Has keycode
  · rw [unshifted_bind h, if_neg hne]
  · rw [bind_of_not_has h]

end KeyboardMapping

/-- The mapping after a binding was asked for. -/
def Binding.apply (b : Binding) (mapping : KeyboardMapping) : KeyboardMapping :=
  if b.granted then mapping.bind b.keycode b.keysym else mapping

namespace Binding

variable {b : Binding} {mapping : KeyboardMapping} {keycode : UInt8}

theorem has_apply : (b.apply mapping).Has keycode ↔ mapping.Has keycode := by
  unfold apply
  split
  · exact KeyboardMapping.has_bind
  · exact Iff.rfl

theorem unshifted_apply_of_ne (hne : keycode ≠ b.keycode) :
    (b.apply mapping).unshifted keycode = mapping.unshifted keycode := by
  unfold apply
  split
  · exact KeyboardMapping.unshifted_bind_of_ne hne _
  · rfl

theorem unshifted_apply_self (hhas : mapping.Has b.keycode) (hgranted : b.granted = true) :
    (b.apply mapping).unshifted b.keycode = b.keysym := by
  rw [apply, if_pos hgranted, KeyboardMapping.unshifted_bind hhas, if_pos rfl]

/-- The latest binding of a keycode is the one that was asked for just now, or the one before. -/
theorem latest_cons {since : Nat} {bindings : List Binding} (hsince : since ≤ bindings.length) :
    latest since (b :: bindings) keycode = if b.keycode = keycode then some b else latest since bindings keycode := by
  rw [latest, List.length_cons, Nat.succ_sub hsince, List.take_succ_cons, List.find?_cons]
  split
  next h => rw [if_pos (eq_of_beq h)]
  next h => rw [if_neg (ne_of_beq_false h), latest]

/-- The latest binding since some time is the latest of all. -/
theorem latest_zero {since : Nat} {bindings : List Binding} (h : latest since bindings keycode = some b) :
    latest 0 bindings keycode = some b := by
  rw [latest, Nat.sub_zero, List.take_length]
  exact (List.take_prefix _ _).find?_eq_some h

end Binding

/-! ### One request -/

namespace Keymap

variable {refuse : Refusals} {d : Display} {m : Keymap} {keysym : UInt32} {keycode : UInt8} {pressed : Bool}

/-- What is taken in hand: the key that the keymap has for the symbol, or a spare one to be bound and pressed. -/
theorem take_eq_ok {stroke : Stroke} {after : Keymap} (h : m.take keysym pressed = .ok (stroke, after)) :
    (∃ keycode, m.keycodes keysym = some keycode ∧ stroke = .key keycode keysym pressed ∧ after = m) ∨
      (m.keycodes keysym = none ∧ pressed = true ∧
        ∃ keycode, m.assignSpare keysym = some (keycode, after) ∧ stroke = .binding keycode keysym) := by
  unfold take at h
  split at h
  next keycode hkeycode =>
    cases h
    exact .inl ⟨keycode, hkeycode, rfl, rfl⟩
  next hkeycode =>
    split at h
    next hpressed =>
      split at h
      · cases h
      next keycode _ hassign =>
        cases h
        exact .inr ⟨hkeycode, hpressed, keycode, hassign, rfl⟩
    next => cases h

/-- A key to be pressed is there, unless no keycode is spare. -/
theorem take_eq_error {e : InputError} (h : m.take keysym pressed = .error e) :
    m.keycodes keysym = none ∧ (pressed = true → m.spare = [] ∧ e = .noSpareKeycode keysym) := by
  unfold take at h
  split at h
  · cases h
  next hkeycode =>
    refine ⟨hkeycode, fun hpressed => ?_⟩
    rw [if_pos hpressed] at h
    split at h
    next hassign =>
      cases h
      exact ⟨assignSpare_eq_none_iff.1 hassign, rfl⟩
    · cases h

theorem request_refused {r : DisplayRequest} {failure : RequestFailure} (h : refuse r = some failure) :
    request refuse r d = (.error (.injection failure.text), { d with requests := r :: d.requests }) := by
  simp only [request, Display.ask, h]

theorem request_granted {r : DisplayRequest} (h : refuse r = none) :
    request refuse r d = (.ok (), { d with requests := r :: d.requests }.carryOut r) := by
  simp only [request, Display.ask, h]

/-- The answer to a key that is pressed or released. -/
def strike (refuse : Refusals) (keycode : UInt8) (pressed : Bool) : Except InputError UInt8 :=
  match refuse (.key keycode pressed) with
  | some failure => .error (.injection failure.text)
  | none => .ok keycode

theorem strike_eq_ok {used : UInt8} (h : strike refuse keycode pressed = .ok used) : used = keycode := by
  unfold strike at h
  split at h
  · cases h
  · cases h
    rfl

theorem strike_eq_error {e : InputError} (h : strike refuse keycode pressed = .error e) :
    ∃ r failure, refuse r = some failure ∧ e = .injection failure.text := by
  unfold strike at h
  split at h
  next failure hkey =>
    cases h
    exact ⟨_, failure, hkey, rfl⟩
  · cases h

/-- The key that is pressed or released is answered at once. -/
theorem Stroke.proceed_key :
    (key keycode keysym pressed).proceed refuse d =
      (.inl (strike refuse keycode pressed), { d with requests := .key keycode pressed :: d.requests }) := by
  unfold proceed strike
  cases h : refuse (.key keycode pressed) with
  | some failure => simp only [request_refused h]
  | none => simp only [request_granted h, Display.carryOut]

/-- A keycode that is bound is pressed next. -/
theorem Stroke.proceed_binding (i : Nat) :
    (binding keycode keysym).proceed refuse d =
      (match refuse (.bind keycode keysym) with
        | some failure => .inl (.error (.injection failure.text))
        | none => .inr (.key keycode keysym true),
      { d with
        mapping := Binding.apply ⟨i, keycode, keysym, (refuse (.bind keycode keysym)).isNone⟩ d.mapping
        requests := .bind keycode keysym :: d.requests }) := by
  unfold proceed Binding.apply
  cases h : refuse (.bind keycode keysym) with
  | some failure => simp only [request_refused h]; rfl
  | none => simp only [request_granted h, Display.carryOut]; rfl

/-! The ways in which a symbol is typed at once: there is no key, the key is known, or a spare keycode is bound first. -/

theorem typeKeysym_of_take_error {e : InputError} (h : m.take keysym pressed = .error e) :
    m.typeKeysym refuse keysym pressed d = (.error e, m, d) := by
  have hkeycode := (take_eq_error h).1
  unfold take at h
  unfold typeKeysym keycodeFor
  rw [hkeycode] at h ⊢
  cases pressed with
  | false =>
    cases h
    rfl
  | true =>
    cases hassign : m.assignSpare keysym with
    | none =>
      rw [hassign] at h
      cases h
      rfl
    | some assigned =>
      rw [hassign] at h
      cases h

theorem typeKeysym_of_keycode (h : m.keycodes keysym = some keycode) :
    m.typeKeysym refuse keysym pressed d =
      (strike refuse keycode pressed, m, { d with requests := .key keycode pressed :: d.requests }) := by
  simp only [typeKeysym, keycodeFor, h, strike]
  cases hkey : refuse (.key keycode pressed) with
  | some failure => simp only [request_refused hkey]
  | none => simp only [request_granted hkey, Display.carryOut]

theorem typeKeysym_of_spare {after : Keymap} (h : m.keycodes keysym = none)
    (hassign : m.assignSpare keysym = some (keycode, after)) :
    m.typeKeysym refuse keysym true d =
      match refuse (.bind keycode keysym) with
      | some failure =>
        (.error (.injection failure.text), after, { d with requests := .bind keycode keysym :: d.requests })
      | none =>
        (strike refuse keycode true, after,
          { d with
            mapping := d.mapping.bind keycode keysym
            requests := .key keycode true :: .bind keycode keysym :: d.requests }) := by
  simp only [typeKeysym, keycodeFor, h, hassign, if_true, strike]
  cases hbind : refuse (.bind keycode keysym) with
  | some failure => simp only [request_refused hbind]
  | none =>
    simp only [request_granted hbind]
    cases hkey : refuse (.key keycode true) with
    | some failure => simp only [request_refused hkey, Display.carryOut]
    | none => simp only [request_granted hkey, Display.carryOut]

/-- A symbol that is typed has a keycode from then on, and the key was struck last of all. -/
theorem keycodes_of_typeKeysym {after : Keymap} {d' : Display}
    (h : m.typeKeysym refuse keysym pressed d = (.ok keycode, after, d')) :
    after.keycodes keysym = some keycode ∧ d'.requests.head? = some (.key keycode pressed) := by
  cases htake : m.take keysym pressed with
  | error e =>
    rw [typeKeysym_of_take_error htake] at h
    cases h
  | ok taken =>
    obtain ⟨keycode', hkeycode, -, -⟩ | ⟨hkeycode, rfl, keycode', hassign, -⟩ := take_eq_ok htake
    · rw [typeKeysym_of_keycode hkeycode] at h
      obtain ⟨hstrike, rfl, rfl⟩ := Prod.ext_iff.1 h |>.imp_right Prod.ext_iff.1
      obtain rfl := strike_eq_ok hstrike
      exact ⟨hkeycode, rfl⟩
    · rw [typeKeysym_of_spare hkeycode hassign] at h
      split at h
      · cases h
      · obtain ⟨hstrike, rfl, rfl⟩ := Prod.ext_iff.1 h |>.imp_right Prod.ext_iff.1
        obtain rfl := strike_eq_ok hstrike
        exact ⟨keycodes_of_assignSpare hassign, rfl⟩

/-- A symbol that cannot be pressed finds no spare keycode, or else the display refused a request. -/
theorem error_of_typeKeysym {e : InputError} {after : Keymap} {d' : Display}
    (h : m.typeKeysym refuse keysym true d = (.error e, after, d')) :
    (m.spare = [] ∧ e = .noSpareKeycode keysym) ∨
      ∃ r failure, refuse r = some failure ∧ e = .injection failure.text := by
  cases htake : m.take keysym true with
  | error e =>
    rw [typeKeysym_of_take_error htake] at h
    cases h
    exact .inl ((take_eq_error htake).2 rfl)
  | ok taken =>
    obtain ⟨keycode', hkeycode, -, -⟩ | ⟨hkeycode, -, keycode', hassign, -⟩ := take_eq_ok htake
    · rw [typeKeysym_of_keycode hkeycode] at h
      exact .inr (strike_eq_error (congrArg Prod.fst h))
    · rw [typeKeysym_of_spare hkeycode hassign] at h
      split at h
      next failure hbind =>
        cases h
        exact .inr ⟨_, failure, hbind, rfl⟩
      · exact .inr (strike_eq_error (congrArg Prod.fst h))

end Keymap

end RemoteDesktop
