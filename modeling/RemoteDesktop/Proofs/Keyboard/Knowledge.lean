import RemoteDesktop.Proofs.Keyboard.Typing

/-!
# What typists know of a display that they share

The keymap of a typist is what the typist was told when it joined, and what it has asked for since. So the keycode it
has for a symbol types this symbol unless somebody asked to bind it in the meantime (`Typist.Knows`), and the display
itself goes by the latest binding, if it was granted (`SharedDisplay.Sound`). Every act keeps both.

Typing a symbol at once, as an injector does it for its caller, is a stroke whose requests follow each other
(`SharedDisplay.type_eq_acts`).
-/

namespace RemoteDesktop

/-! ### One typist -/

/-- A typist has the key of a symbol in hand: the one its keymap has for the symbol, and a spare one if it has yet to
be bound. -/
def Keymap.Holds (m : Keymap) : Keymap.Stroke → Prop
  | .binding keycode keysym => keycode ∈ m.spare ∧ m.keycodes keysym = some keycode
  | .key keycode keysym _ => m.keycodes keysym = some keycode

namespace Typist

variable {t : Typist} {bindings : List Binding} {b : Binding} {keycode : UInt8}

/-- What a typist knows: its spare keycodes can be bound, and a keycode that its keymap has for a symbol types this
symbol as long as nobody has asked to bind it since the typist joined; if the typist itself was the last to ask, it
asked for this symbol. A spare keycode that was handed out and has yet to be bound is no such keycode. -/
structure Knows (t : Typist) (i : Nat) (bindings : List Binding) (mapping : KeyboardMapping) : Prop where
  since_le : t.since ≤ bindings.length
  has (keycode : UInt8) : keycode ∈ t.keymap.spare → mapping.Has keycode
  coherent : t.keymap.Coherent
  holds : ∀ stroke ∈ t.stroke, t.keymap.Holds stroke
  untouched (keysym : UInt32) (keycode : UInt8) :
    t.keymap.keycodes keysym = some keycode → t.stroke ≠ some (.binding keycode keysym) →
      Binding.latest t.since bindings keycode = none → mapping.unshifted keycode = keysym
  asked (keysym : UInt32) (keycode : UInt8) :
    t.keymap.keycodes keysym = some keycode → t.stroke ≠ some (.binding keycode keysym) →
      ∀ b, Binding.latest t.since bindings keycode = some b → b.typist = i → b.keysym = keysym

namespace Knows

variable {i : Nat} {mapping : KeyboardMapping} {m : Keymap} {keysym : UInt32} {pressed : Bool} {since : Nat}

/-- Who has just joined knows that the keymap is right. -/
theorem joined (h : m.Reads mapping) : Knows ⟨m, none, bindings.length⟩ i bindings mapping where
  since_le := Nat.le_refl _
  has keycode hspare := (h.spare keycode hspare).1
  coherent := h.coherent
  holds := nofun
  untouched keysym keycode hkeycode _ _ := (h.typed keysym keycode hkeycode).2
  asked _ _ _ _ b hlast := by
    rw [Binding.latest, Nat.sub_self] at hlast
    cases hlast

/-- A binding that somebody else asks for. -/
theorem overhear (h : t.Knows i bindings mapping) (hother : b.typist ≠ i) :
    t.Knows i (b :: bindings) (b.apply mapping) where
  since_le := Nat.le_succ_of_le h.since_le
  has keycode hspare := Binding.has_apply.2 (h.has keycode hspare)
  coherent := h.coherent
  holds := h.holds
  untouched keysym keycode hkeycode hbound hlast := by
    rw [Binding.latest_cons h.since_le] at hlast
    split at hlast
    · cases hlast
    next hne =>
      rw [Binding.unshifted_apply_of_ne (Ne.symm hne)]
      exact h.untouched keysym keycode hkeycode hbound hlast
  asked keysym keycode hkeycode hbound b' hlast hown := by
    rw [Binding.latest_cons h.since_le] at hlast
    split at hlast
    · obtain rfl := Option.some_inj.1 hlast
      exact absurd hown hother
    · exact h.asked keysym keycode hkeycode hbound b' hlast hown

/-- The hand changes, and no binding is outstanding before. -/
theorem regrip {stroke next : Option Keymap.Stroke} (h : Knows ⟨m, stroke, since⟩ i bindings mapping)
    (hstroke : ∀ keycode keysym, stroke ≠ some (.binding keycode keysym)) (hnext : ∀ s ∈ next, m.Holds s) :
    Knows ⟨m, next, since⟩ i bindings mapping where
  since_le := h.since_le
  has := h.has
  coherent := h.coherent
  holds := hnext
  untouched keysym keycode hkeycode _ := h.untouched keysym keycode hkeycode (hstroke _ _)
  asked keysym keycode hkeycode _ := h.asked keysym keycode hkeycode (hstroke _ _)

/-- A spare keycode is handed out for a symbol. -/
theorem hand (h : Knows ⟨m, none, since⟩ i bindings mapping) {after : Keymap}
    (hassign : m.assignSpare keysym = some (keycode, after)) :
    Knows ⟨after, some (.binding keycode keysym), since⟩ i bindings mapping := by
  have hkeycode := Keymap.keycodes_of_assignSpare hassign
  obtain ⟨hnext, rfl⟩ := Keymap.assignSpare_eq_some_iff.1 hassign
  have hspare := Keymap.mem_spare_of_nextSpare? hnext
  have hbefore {other keycode'} (hother : (m.hand keycode keysym).keycodes other = some keycode')
      (hbound : some (Keymap.Stroke.binding keycode keysym) ≠ some (.binding keycode' other)) :
      m.keycodes other = some keycode' := by
    obtain ⟨rfl, rfl⟩ | ⟨-, -, hbefore⟩ := h.coherent.keycodes_hand hspare hother
    · exact absurd rfl hbound
    · exact hbefore
  exact {
    since_le := h.since_le
    has := h.has
    coherent := h.coherent.hand hspare
    holds := by
      rintro _ ⟨⟩
      exact ⟨hspare, hkeycode⟩
    untouched := fun other keycode' hother hbound => h.untouched other keycode' (hbefore hother hbound) nofun
    asked := fun other keycode' hother hbound => h.asked other keycode' (hbefore hother hbound) nofun }

/-- The typist takes a key in hand. -/
theorem take (h : Knows ⟨m, none, since⟩ i bindings mapping) {stroke : Keymap.Stroke} {after : Keymap}
    (htake : m.take keysym pressed = .ok (stroke, after)) :
    Knows ⟨after, some stroke, since⟩ i bindings mapping := by
  obtain ⟨keycode, hkeycode, rfl, rfl⟩ | ⟨-, -, keycode, hassign, rfl⟩ := Keymap.take_eq_ok htake
  · refine h.regrip nofun ?_
    rintro _ ⟨⟩
    exact hkeycode
  · exact h.hand hassign

/-- The typist asks to bind the keycode in hand. -/
theorem bind (h : Knows ⟨m, some (.binding keycode keysym), since⟩ i bindings mapping) (granted : Bool)
    {next : Option Keymap.Stroke} (hnext : ∀ s ∈ next, s = .key keycode keysym true) :
    Knows ⟨m, next, since⟩ i (⟨i, keycode, keysym, granted⟩ :: bindings)
      (Binding.apply ⟨i, keycode, keysym, granted⟩ mapping) := by
  obtain ⟨hspare, hkeycode⟩ := h.holds _ rfl
  -- the keycode is that of one symbol, so a note on it is a note on this symbol
  have hsymbol {other} (hother : m.keycodes other = some keycode) : keysym = other :=
    Option.some_inj.1 ((h.coherent _ _ hkeycode hspare).symm.trans (h.coherent _ _ hother hspare))
  exact {
    since_le := Nat.le_succ_of_le h.since_le
    has := fun keycode' hspare' => Binding.has_apply.2 (h.has keycode' hspare')
    coherent := h.coherent
    holds := fun s hs => by
      rw [hnext s hs]
      exact hkeycode
    untouched := fun other keycode' hother _ hlast => by
      rw [Binding.latest_cons h.since_le] at hlast
      split at hlast
      · cases hlast
      next hne =>
        rw [Binding.unshifted_apply_of_ne (Ne.symm hne)]
        exact h.untouched other keycode' hother (fun e => hne (by cases e; rfl)) hlast
    asked := fun other keycode' hother _ b hlast hown => by
      rw [Binding.latest_cons h.since_le] at hlast
      split at hlast
      next heq =>
        obtain rfl := Option.some_inj.1 hlast
        subst heq
        exact hsymbol hother
      next hne => exact h.asked other keycode' hother (fun e => hne (by cases e; rfl)) b hlast hown }

end Knows

end Typist

/-! ### One act -/

namespace SharedDisplay

variable {s : SharedDisplay} {refuse : Refusals} {i : Nat} {t : Typist} {d : Display} {m : Keymap} {since : Nat}
  {keysym : UInt32} {keycode : UInt8} {pressed : Bool}

theorem settle_asked (asked : List DisplayRequest) (hd : d.requests = asked ++ s.display.requests) :
    s.settle refuse i t d = ⟨d, s.typists.set i t, asked.filterMap (·.binding? refuse i) ++ s.bindings⟩ := by
  rw [settle, hd, List.length_append, Nat.add_sub_cancel, List.take_left]

/-- A request to bind a keycode is noted. -/
theorem settle_bind (hd : d.requests = .bind keycode keysym :: s.display.requests) :
    s.settle refuse i t d =
      ⟨d, s.typists.set i t, ⟨i, keycode, keysym, (refuse (.bind keycode keysym)).isNone⟩ :: s.bindings⟩ :=
  settle_asked [.bind keycode keysym] hd

/-- What is noted besides the bindings there have been. -/
theorem mem_settle {b : Binding} (h : b ∈ (s.settle refuse i t d).bindings) :
    b ∈ s.bindings ∨ (b.typist = i ∧ b.granted = (refuse (.bind b.keycode b.keysym)).isNone) := by
  obtain h | h := List.mem_append.1 h
  · obtain ⟨r, -, hr⟩ := List.mem_filterMap.1 h
    cases r <;> cases hr
    exact .inr ⟨rfl, rfl⟩
  · exact .inl h

/-- The last request of a stroke changes no keys. -/
theorem act_proceed_key (hi : s.typists[i]? = some ⟨m, some (.key keycode keysym pressed), since⟩) :
    s.act refuse (.proceed i) =
      (some ⟨i, keysym, pressed, Keymap.strike refuse keycode pressed⟩,
      ⟨{ s.display with requests := .key keycode pressed :: s.display.requests }, s.typists.set i ⟨m, none, since⟩,
        s.bindings⟩) := by
  simp only [act, hi, Keymap.Stroke.proceed_key]
  rw [settle_asked [.key keycode pressed] rfl]
  rfl

/-- A spare keycode is bound, or the stroke is over. -/
theorem act_proceed_binding (hi : s.typists[i]? = some ⟨m, some (.binding keycode keysym), since⟩) :
    s.act refuse (.proceed i) =
      ((refuse (.bind keycode keysym)).map fun failure => ⟨i, keysym, true, .error (.injection failure.text)⟩,
      ⟨{ s.display with
          mapping := Binding.apply ⟨i, keycode, keysym, (refuse (.bind keycode keysym)).isNone⟩ s.display.mapping
          requests := .bind keycode keysym :: s.display.requests },
        s.typists.set i
          ⟨m, if (refuse (.bind keycode keysym)).isNone then some (.key keycode keysym true) else none, since⟩,
        ⟨i, keycode, keysym, (refuse (.bind keycode keysym)).isNone⟩ :: s.bindings⟩) := by
  simp only [act, hi, Keymap.Stroke.proceed_binding i]
  cases h : refuse (.bind keycode keysym) with
  | some failure =>
    simp only
    rw [settle_bind rfl, h]
    rfl
  | none =>
    simp only
    rw [settle_bind rfl, h]
    rfl

/-- A typist with no key in hand has no request to make. -/
theorem act_proceed_free (hi : s.typists[i]? = some ⟨m, none, since⟩) : s.act refuse (.proceed i) = (none, s) := by
  simp only [act, hi]

theorem proceed_twice_key (hi : s.typists[i]? = some ⟨m, some (.key keycode keysym pressed), since⟩) :
    ((s.act refuse (.proceed i)).2.act refuse (.proceed i)).2 =
      ⟨{ s.display with requests := .key keycode pressed :: s.display.requests }, s.typists.set i ⟨m, none, since⟩,
        s.bindings⟩ := by
  have hfree : (s.act refuse (.proceed i)).2.typists[i]? = some ⟨m, none, since⟩ := by
    rw [act_proceed_key hi]
    exact List.getElem?_set_self (List.getElem?_eq_some_iff.1 hi).1
  rw [act_proceed_free hfree, act_proceed_key hi]

theorem proceed_twice_binding (hi : s.typists[i]? = some ⟨m, some (.binding keycode keysym), since⟩) :
    ((s.act refuse (.proceed i)).2.act refuse (.proceed i)).2 =
      match refuse (.bind keycode keysym) with
      | some _ =>
        ⟨{ s.display with requests := .bind keycode keysym :: s.display.requests }, s.typists.set i ⟨m, none, since⟩,
          ⟨i, keycode, keysym, false⟩ :: s.bindings⟩
      | none =>
        ⟨{ s.display with
            mapping := s.display.mapping.bind keycode keysym
            requests := .key keycode true :: .bind keycode keysym :: s.display.requests },
          s.typists.set i ⟨m, none, since⟩, ⟨i, keycode, keysym, true⟩ :: s.bindings⟩ := by
  have hlt := (List.getElem?_eq_some_iff.1 hi).1
  have hfirst : s.act refuse (.proceed i) = _ := act_proceed_binding hi
  cases hbind : refuse (.bind keycode keysym) with
  | some failure =>
    rw [hbind] at hfirst
    rw [act_proceed_free (by rw [hfirst]; exact List.getElem?_set_self hlt), hfirst]
    rfl
  | none =>
    rw [hbind] at hfirst
    rw [act_proceed_key (by rw [hfirst]; exact List.getElem?_set_self hlt), hfirst]
    simp only [List.set_set]
    rfl

/-- Pressing or releasing a key while the others wait is a stroke whose requests follow each other. -/
theorem type_eq_acts (hi : s.typists[i]? = some ⟨m, none, since⟩) :
    (s.type refuse i keysym pressed).2 =
      (((s.act refuse (.take i keysym pressed)).2.act refuse (.proceed i)).2.act refuse (.proceed i)).2 := by
  obtain ⟨hlt, hget⟩ := List.getElem?_eq_some_iff.1 hi
  cases htake : m.take keysym pressed with
  | error e =>
    have hact : s.act refuse (.take i keysym pressed) = (some ⟨i, keysym, pressed, .error e⟩, s) := by
      simp only [act, hi, htake]
    rw [hact, act_proceed_free hi, act_proceed_free hi]
    simp only [type, hi, Keymap.typeKeysym_of_take_error htake]
    rw [settle_asked [] rfl, ← hget, List.set_getElem_self]
    rfl
  | ok taken =>
    obtain ⟨stroke, after⟩ := taken
    have hact : s.act refuse (.take i keysym pressed) =
        (none, { s with typists := s.typists.set i ⟨after, some stroke, since⟩ }) := by
      simp only [act, hi, htake]
    rw [hact]
    obtain ⟨keycode, hkeycode, rfl, rfl⟩ | ⟨hkeycode, rfl, keycode, hassign, rfl⟩ := Keymap.take_eq_ok htake
    · rw [proceed_twice_key (List.getElem?_set_self hlt)]
      simp only [type, hi, Keymap.typeKeysym_of_keycode hkeycode]
      rw [settle_asked [.key keycode pressed] rfl, List.set_set]
      rfl
    · rw [proceed_twice_binding (List.getElem?_set_self hlt)]
      simp only [type, hi, Keymap.typeKeysym_of_spare hkeycode hassign]
      cases hbind : refuse (.bind keycode keysym) with
      | some failure =>
        simp only
        rw [settle_bind rfl, hbind, List.set_set]
        rfl
      | none =>
        have hnote : [DisplayRequest.key keycode true, .bind keycode keysym].filterMap (·.binding? refuse i) =
            [⟨i, keycode, keysym, true⟩] := by simp [DisplayRequest.binding?, hbind]
        simp only
        rw [settle_asked [.key keycode true, .bind keycode keysym] rfl, hnote, List.set_set]
        rfl

/-! ### What an act preserves -/

/-- All is as the typists know it, and a keycode types the symbol of the latest binding that was asked for, if it was
granted. -/
structure Sound (s : SharedDisplay) : Prop where
  shows (keycode : UInt8) (b : Binding) :
    Binding.latest 0 s.bindings keycode = some b → b.granted = true → s.display.mapping.unshifted keycode = b.keysym
  knows (i : Nat) (t : Typist) : s.typists[i]? = some t → t.Knows i s.bindings s.display.mapping

theorem sound_unused (d : Display) : (unused d).Sound where
  shows := nofun
  knows := nofun

namespace Sound

/-- What is known after one typist did something, if all others know what they should. -/
theorem knows_set {bindings : List Binding} {mapping : KeyboardMapping}
    (hothers : ∀ j ≠ i, ∀ t', s.typists[j]? = some t' → t'.Knows j bindings mapping) (ht : t.Knows i bindings mapping)
    (j : Nat) (t' : Typist) (hj : (s.typists.set i t)[j]? = some t') : t'.Knows j bindings mapping := by
  rw [List.getElem?_set] at hj
  split at hj
  next heq =>
    subst heq
    split at hj
    · cases hj
      exact ht
    · cases hj
  next hne => exact hothers j (Ne.symm hne) t' hj

/-- A typist does something that changes no keys. -/
theorem set (h : s.Sound) (hd : d.mapping = s.display.mapping) (ht : t.Knows i s.bindings s.display.mapping) :
    Sound ⟨d, s.typists.set i t, s.bindings⟩ where
  shows keycode b hlast hgranted := hd ▸ h.shows keycode b hlast hgranted
  knows := hd ▸ knows_set (fun j _ t' hj => h.knows j t' hj) ht

/-- A typist asks to bind a keycode. -/
theorem bind (h : s.Sound) (b : Binding) (hhas : s.display.mapping.Has b.keycode)
    (hd : d.mapping = b.apply s.display.mapping) (ht : t.Knows b.typist (b :: s.bindings) (b.apply s.display.mapping)) :
    Sound ⟨d, s.typists.set b.typist t, b :: s.bindings⟩ where
  shows keycode b' hlast hgranted := by
    rw [hd]
    rw [Binding.latest_cons (Nat.zero_le _)] at hlast
    split at hlast
    next heq =>
      obtain rfl := Option.some_inj.1 hlast
      rw [← heq]
      exact Binding.unshifted_apply_self hhas hgranted
    next hne =>
      rw [Binding.unshifted_apply_of_ne (Ne.symm hne)]
      exact h.shows keycode b' hlast hgranted
  knows := hd ▸ knows_set (fun j hne t' hj => (h.knows j t' hj).overhear (Ne.symm hne)) ht

theorem join (h : s.Sound) (refuse : Refusals) : (s.join refuse).Sound := by
  obtain ⟨hmapping, hreads⟩ := Keymap.reads_load refuse s.display
  unfold SharedDisplay.join
  split
  next e d hload =>
    rw [hload] at hmapping
    exact { shows := hmapping ▸ h.shows, knows := hmapping ▸ h.knows }
  next m d hload =>
    rw [hload] at hmapping hreads
    refine { shows := hmapping ▸ h.shows, knows := fun j t hj => ?_ }
    rw [hmapping]
    rw [List.getElem?_append] at hj
    split at hj
    · exact h.knows j t hj
    · obtain rfl := List.mem_singleton.1 (List.mem_of_getElem? hj)
      exact .joined (hreads m rfl)

theorem act (h : s.Sound) (refuse : Refusals) (a : Act) : (s.act refuse a).2.Sound := by
  cases a with
  | join => exact h.join refuse
  | take i keysym pressed =>
    simp only [SharedDisplay.act]
    split
    next m since hi =>
      split
      · exact h
      next htake => exact h.set rfl ((h.knows i _ hi).take htake)
    · exact h
  | proceed i =>
    match hi : s.typists[i]? with
    | none => simpa only [SharedDisplay.act, hi] using h
    | some ⟨m, none, since⟩ => rwa [act_proceed_free hi]
    | some ⟨m, some (.key keycode keysym pressed), since⟩ =>
      rw [act_proceed_key hi]
      exact h.set rfl ((h.knows i _ hi).regrip nofun nofun)
    | some ⟨m, some (.binding keycode keysym), since⟩ =>
      have hknows := h.knows i _ hi
      rw [act_proceed_binding hi]
      refine h.bind ⟨i, keycode, keysym, _⟩ (hknows.has _ (hknows.holds _ rfl).1) rfl (hknows.bind _ ?_)
      intro stroke hstroke
      split at hstroke
      · exact (Option.some_inj.1 hstroke).symm
      · cases hstroke

theorem type (h : s.Sound) (refuse : Refusals) (i : Nat) (keysym : UInt32) (pressed : Bool) :
    (s.type refuse i keysym pressed).2.Sound := by
  match hi : s.typists[i]? with
  | none => simpa only [SharedDisplay.type, hi] using h
  | some ⟨m, some stroke, since⟩ => simpa only [SharedDisplay.type, hi] using h
  | some ⟨m, none, since⟩ =>
    rw [type_eq_acts hi]
    exact ((h.act refuse _).act refuse _).act refuse _

/-- The keycode that a typist has for a symbol types this symbol, or somebody asked to bind it since the typist
joined. If that was the typist itself, the last time, then for this symbol; and if it was granted, the keycode types
what it was bound to. -/
theorem types (h : s.Sound) (hi : s.typists[i]? = some ⟨m, none, since⟩) (hkeycode : m.keycodes keysym = some keycode) :
    s.display.mapping.unshifted keycode = keysym ∨
      ∃ b, Binding.latest since s.bindings keycode = some b ∧ (b.typist = i → b.keysym = keysym) ∧
        (b.granted = true → s.display.mapping.unshifted keycode = b.keysym) := by
  have hknows := h.knows i _ hi
  cases hlast : Binding.latest since s.bindings keycode with
  | none => exact .inl (hknows.untouched keysym keycode hkeycode nofun hlast)
  | some b =>
    exact .inr ⟨b, rfl, hknows.asked keysym keycode hkeycode nofun b hlast,
      h.shows keycode b (Binding.latest_zero hlast)⟩

end Sound

end SharedDisplay

end RemoteDesktop
