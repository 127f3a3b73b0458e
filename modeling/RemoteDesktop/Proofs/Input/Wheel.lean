import Mathlib.Data.Nat.Bitwise
import RemoteDesktop.Proofs.Input.Held

/-!
# Wheels

A click of a wheel is a press and a release of a button in one event, and neither is noted as held. So if an event
ends between the two, because the release is refused, nothing but a later click of the same button releases it: a
stop releases what is noted, and tries no button of a wheel.

Between two calls a wheel button is therefore down exactly if the latest attempt to release it was refused
(`WheelsTold`): a click settles both sides anew (`WheelsTold.click`), a press that is refused leaves both as they were,
and attempts on other things do not touch them.

Main statement: `Dispatcher.wheel_is_down_iff`. A wheel button may indeed be left down
(`Dispatcher.refused_release_leaves_wheel_down`).
-/

namespace RemoteDesktop

/-! ### Rotations -/

/-- A wheel turned by what the low nine bits of the word say in two's complement. -/
theorem PointerFlags.rotation_eq (word : UInt16) : rotation word = (word.toBitVec.setWidth 9).toInt := by
  have hraw : (word &&& 0x01FF).toNat = word.toNat % 512 := Nat.and_two_pow_sub_one_eq_mod word.toNat 9
  have hbit : (word &&& 0x0100).toNat = (word.toNat.testBit 8).toNat * 256 := Nat.and_two_pow word.toNat 8
  have hset : (word &&& 0x0100) ≠ 0 ↔ word.toNat.testBit 8 = true := by
    rw [ne_eq, ← UInt16.toNat_inj, hbit]
    cases word.toNat.testBit 8 <;> simp
  have hmsb : (word.toBitVec.setWidth 9).msb = word.toNat.testBit 8 := by
    simp [BitVec.msb_setWidth, BitVec.getLsbD]
  have hsign : wheelNegative.isSet word = (word.toBitVec.setWidth 9).msb := by
    rw [hmsb, Flag.isSet, wheelNegative, bne, Bool.eq_iff_iff, ← hset]
    simp
  rw [rotation, hsign, hraw, BitVec.toInt_eq_msb_cond, BitVec.toNat_setWidth]
  rfl

/-! ### Attempts on wheel buttons -/

/-- The action presses or releases a button of a wheel. -/
def Action.TurnsWheel : Action → Prop
  | button number _ => isWheelButton number = true
  | key _ _ | keysym _ _ | motion _ _ => False

namespace Holdable

variable {number : UInt8} {action : Action} {made attempts : List Attempt} {refusal : Option InputError}

/-- An action that turns no wheel is about other things than wheel buttons. -/
theorem isDown_aside (hwheel : isWheelButton number = true) (h : ¬ action.TurnsWheel) :
    (button number).IsDown (⟨action, refusal⟩ :: attempts) ↔ (button number).IsDown attempts := by
  cases refusal with
  | some e => exact isDown_refused
  | none =>
    rw [isDown_granted]
    cases action with
    | motion x y => rfl
    | key | keysym => simp [Action.stroke?]
    | button other pressed =>
      have hne : number ≠ other := by
        rintro rfl
        exact h hwheel
      simp [Action.stroke?, hne]

theorem releaseRefused_of_ne (h : action ≠ (button number).release) :
    (button number).ReleaseRefused (⟨action, refusal⟩ :: attempts) ↔ (button number).ReleaseRefused attempts := by
  simp [ReleaseRefused, h]

theorem releaseRefused_release :
    (button number).ReleaseRefused (⟨.button number false, refusal⟩ :: attempts) ↔ refusal ≠ none := by
  cases refusal <;> simp [ReleaseRefused, release, Attempt.succeeded]

theorem isDown_append_aside (hwheel : isWheelButton number = true) (h : ∀ a ∈ made, ¬ a.action.TurnsWheel) :
    (button number).IsDown (made ++ attempts) ↔ (button number).IsDown attempts := by
  induction made with
  | nil => rfl
  | cons a made ih =>
    obtain ⟨ha, hmade⟩ := List.forall_mem_cons.1 h
    exact (isDown_aside hwheel ha).trans (ih hmade)

theorem releaseRefused_append_aside (hwheel : isWheelButton number = true) (h : ∀ a ∈ made, ¬ a.action.TurnsWheel) :
    (button number).ReleaseRefused (made ++ attempts) ↔ (button number).ReleaseRefused attempts := by
  induction made with
  | nil => rfl
  | cons a made ih =>
    obtain ⟨ha, hmade⟩ := List.forall_mem_cons.1 h
    have hne : a.action ≠ (button number).release := by
      intro heq
      rw [heq] at ha
      exact ha hwheel
    exact (releaseRefused_of_ne hne).trans (ih hmade)

end Holdable

/-- The latest attempts to release the wheel buttons tell which of them are down. -/
def WheelsTold (attempts : List Attempt) : Prop :=
  ∀ number, isWheelButton number = true →
    ((Holdable.button number).IsDown attempts ↔ (Holdable.button number).ReleaseRefused attempts)

namespace WheelsTold

variable {made attempts : List Attempt} {number : UInt8}

theorem nil : WheelsTold [] := by
  intro number _
  simp [Holdable.not_isDown_nil, Holdable.ReleaseRefused]

theorem append_aside (h : WheelsTold attempts) (hmade : ∀ a ∈ made, ¬ a.action.TurnsWheel) :
    WheelsTold (made ++ attempts) := by
  intro number hwheel
  rw [Holdable.isDown_append_aside hwheel hmade, Holdable.releaseRefused_append_aside hwheel hmade]
  exact h number hwheel

theorem press_refused (h : WheelsTold attempts) (e : InputError) :
    WheelsTold (⟨.button number true, some e⟩ :: attempts) := by
  intro other hwheel
  rw [Holdable.isDown_refused, Holdable.releaseRefused_of_ne (by simp [Holdable.release])]
  exact h other hwheel

/-- Once its press was granted, the release of a click decides about the button. -/
theorem click (h : WheelsTold attempts) (refusal : Option InputError) :
    WheelsTold (⟨.button number false, refusal⟩ :: ⟨.button number true, none⟩ :: attempts) := by
  intro other hwheel
  by_cases heq : other = number
  · subst heq
    rw [Holdable.releaseRefused_release]
    cases refusal with
    | none => simp [Holdable.isDown_granted, Action.stroke?]
    | some e => simp [Holdable.isDown_refused, Holdable.isDown_granted, Action.stroke?]
  · have hpress : Action.button number true ≠ (Holdable.button other).release := by simp [Holdable.release]
    have hrelease : Action.button number false ≠ (Holdable.button other).release := by
      simpa [Holdable.release] using Ne.symm heq
    rw [Holdable.releaseRefused_of_ne hrelease, Holdable.releaseRefused_of_ne hpress, ← h other hwheel]
    cases refusal with
    | none => simp [Holdable.isDown_granted, Action.stroke?, heq]
    | some e => simp [Holdable.isDown_refused, Holdable.isDown_granted, Action.stroke?, heq]

end WheelsTold

/-! ### Events -/

namespace InputEvent

/-- Some clicks of a button: a press and a release for each. -/
def clicks (count : Nat) (number : UInt8) : List Action :=
  (List.replicate count [Action.button number true, .button number false]).flatten

theorem mem_clicks {count : Nat} {number : UInt8} {action : Action} (h : action ∈ clicks count number) :
    ∃ pressed, action = .button number pressed := by
  obtain ⟨click, hclick, haction⟩ := List.mem_flatten.1 h
  rw [(List.mem_replicate.1 hclick).2] at haction
  simp only [List.mem_cons, List.not_mem_nil, or_false] at haction
  rcases haction with rfl | rfl
  · exact ⟨true, rfl⟩
  · exact ⟨false, rfl⟩

/-- The clicks that a wheel makes: one for each whole turn, but at least one if it turned at all. -/
def clickCount (rotation : Int) : Nat := if rotation = 0 then 0 else max 1 (rotation.natAbs / 120)

theorem scrollActions_eq (word : UInt16) :
    scrollActions word = clicks (clickCount (word.toBitVec.setWidth 9).toInt)
      (wheelButton (PointerFlags.horizontalWheel.isSet word) (word.toBitVec.setWidth 9).toInt) := by
  rw [scrollActions, PointerFlags.rotation_eq]
  rfl

variable {bounds : Bounds} {event : InputEvent} {actions : List Action}

/-- A word that names a wheel asks for its clicks, whatever else it names. -/
theorem actions_of_wheel {flags : UInt16} (x y : UInt16)
    (h : PointerFlags.wheel.isSet flags = true ∨ PointerFlags.horizontalWheel.isSet flags = true) :
    (InputEvent.pointer flags x y).actions bounds = .ok (scrollActions flags) := by
  rw [InputEvent.actions, if_pos (by simpa using h)]

theorem not_turnsWheel_buttonActions {buttons : List (Flag × UInt8)} (h : ∀ b ∈ buttons, isWheelButton b.2 = false)
    (word : UInt16) (pressed : Bool) : ∀ action ∈ buttonActions buttons word pressed, ¬ action.TurnsWheel := by
  intro action haction
  obtain ⟨b, hb, rfl⟩ := List.mem_map.1 haction
  simp [Action.TurnsWheel, h b (List.mem_filter.1 hb).1]

/-- An event clicks a wheel, or has nothing to do with wheels. -/
theorem actions_cases (h : event.actions bounds = .ok actions) :
    (∃ count number, actions = clicks count number) ∨ ∀ action ∈ actions, ¬ action.TurnsWheel := by
  cases event with
  | scancode flags code =>
    rw [InputEvent.actions] at h
    obtain ⟨keycode, -, h⟩ := bind_eq_ok_iff.1 h
    cases h
    simp [Action.TurnsWheel]
  | unicode flags codeUnit =>
    rw [InputEvent.actions] at h
    split at h
    · cases h
    · cases h
      simp [Action.TurnsWheel]
  | pointer flags x y =>
    rw [InputEvent.actions] at h
    split at h
    · cases h
      exact .inl ⟨_, _, scrollActions_eq flags⟩
    · cases h
      refine .inr fun action haction => ?_
      rcases List.mem_append.1 haction with hmotion | hbutton
      · split at hmotion
        · rw [List.mem_singleton.1 hmotion]
          exact id
        · cases hmotion
      · exact not_turnsWheel_buttonActions (by decide) _ _ action hbutton
  | extendedPointer flags x y =>
    cases h
    refine .inr fun action haction => ?_
    rcases List.mem_cons.1 haction with rfl | hbutton
    · exact id
    · exact not_turnsWheel_buttonActions (by decide) _ _ action hbutton

end InputEvent

/-! ### Runs -/

namespace Dispatcher

variable {d : Dispatcher} {attempts : List Attempt}

/-- However far clicks get, the wheels are told. -/
theorem told_clicks (injector : Injector) (count : Nat) (number : UInt8) (held : Held) (h : WheelsTold attempts) :
    WheelsTold (perform injector (InputEvent.clicks count number) held attempts).2.2 := by
  induction count generalizing held attempts with
  | zero => exact h
  | succ count ih =>
    rw [InputEvent.clicks, List.replicate_succ, List.flatten_cons, List.cons_append, List.cons_append, List.nil_append,
      perform]
    cases hpress : injector attempts (.button number true) with
    | some e => exact h.press_refused e
    | none =>
      simp only [perform]
      cases hrelease : injector (⟨.button number true, none⟩ :: attempts) (.button number false) with
      | some e => exact h.click (some e)
      | none => exact ih _ (h.click none)

theorem told_dispatch (h : WheelsTold d.attempts) (injector : Injector) (event : InputEvent) :
    WheelsTold (d.dispatch injector event).2.attempts := by
  rw [dispatch]
  cases d.held with
  | none => exact h
  | some held =>
    cases hactions : event.actions d.bounds with
    | error e => exact h
    | ok actions =>
      rcases InputEvent.actions_cases hactions with ⟨count, number, rfl⟩ | haside
      · exact told_clicks injector count number held h
      · obtain ⟨made, hmade, hall⟩ := perform_attempts injector actions held d.attempts
        simp only [hmade]
        exact h.append_aside fun a ha => haside a.action (hall a ha)

/-- A stop tries no button of a wheel. -/
theorem stop_aside (h : d.Tracks) (injector : Injector) :
    ∃ made, (d.stop injector).attempts = made ++ d.attempts ∧ ∀ a ∈ made, ¬ a.action.TurnsWheel := by
  rw [stop]
  cases hheld : d.held with
  | none => exact ⟨[], rfl, by simp⟩
  | some held =>
    obtain ⟨made, hall, hmade⟩ := attemptAll_eq injector held.releases d.attempts
    refine ⟨made, hall, fun a ha => ?_⟩
    have hrelease : a.action ∈ held.releases := by
      rw [← List.mem_reverse, ← hmade]
      exact List.mem_map_of_mem ha
    obtain ⟨thing, hhas, haction⟩ := Held.mem_releases.1 hrelease
    have hcan : thing.CanBeHeld := (((h held hheld).shows thing).1 hhas).1
    rw [haction]
    cases thing with
    | key | keysym => exact id
    | button number =>
      have hplain : ∀ other ∈ Holdable.buttons, isWheelButton other = false := by simp [Holdable.buttons, isWheelButton]
      simp [Holdable.release, Action.TurnsWheel, hplain number hcan]

theorem told_after (htracks : d.Tracks) (h : WheelsTold d.attempts) (call : Call) :
    WheelsTold (d.after call).attempts := by
  cases call with
  | start unavailable =>
    simp only [after]
    split
    next started hstarted =>
      rw [start_eq_ok hstarted]
      exact .nil
    next => exact h
  | stop injector =>
    obtain ⟨made, hmade, haside⟩ := stop_aside htracks injector
    rw [after, hmade]
    exact h.append_aside haside
  | resize desktop => exact h
  | dispatch injector event => exact told_dispatch h injector event

theorem told_run (htracks : d.Tracks) (h : WheelsTold d.attempts) (calls : List Call) :
    WheelsTold (d.run calls).attempts := by
  induction calls generalizing d with
  | nil => exact h
  | cons call calls ih => exact ih (htracks.after call) (told_after htracks h call)

/-- **A wheel button is left down exactly by a release that is refused.** Whatever is done to a dispatcher, and whichever
attempts are refused: once it is stopped, a wheel button is down if the latest attempt to release it was refused, and
only then, for the stop itself does nothing about wheels. While the dispatcher runs, a pointer event that names a wheel
makes, as far as nothing is refused, exactly the clicks of the one button that the wheel and its direction say, and
never moves the pointer. -/
theorem wheel_is_down_iff (desktop : Size) (calls : List Call) :
    let d := (new desktop).run calls
    (∀ number injector, isWheelButton number = true →
      ((Holdable.button number).IsDown (d.stop injector).attempts ↔
        (Holdable.button number).ReleaseRefused d.attempts)) ∧
      ∀ injector flags x y, d.isRunning = true →
        (PointerFlags.wheel.isSet flags = true ∨ PointerFlags.horizontalWheel.isSet flags = true) →
          let rotation := (flags.toBitVec.setWidth 9).toInt
          let number := InputEvent.wheelButton (PointerFlags.horizontalWheel.isSet flags) rotation
          let clicks := InputEvent.clicks (InputEvent.clickCount rotation) number
          ∃ made, (d.dispatch injector (.pointer flags x y)).2.attempts = made ++ d.attempts ∧
            (∀ a ∈ made, ∃ pressed, a.action = .button number pressed) ∧
              made.reverse.map (·.action) <+: clicks ∧
                ((∀ a ∈ made, a.succeeded = true) →
                  (d.dispatch injector (.pointer flags x y)).1 = .ok () ∧ made.reverse.map (·.action) = clicks) := by
  intro d
  have htracks : d.Tracks := (Tracks.new desktop).run calls
  have htold : WheelsTold d.attempts := told_run (Tracks.new desktop) .nil calls
  refine ⟨fun number injector hwheel => ?_, fun injector flags x y hrunning hflags => ?_⟩
  · obtain ⟨made, hmade, haside⟩ := stop_aside htracks injector
    rw [hmade, Holdable.isDown_append_aside hwheel haside]
    exact htold number hwheel
  · intro rotation number clicks
    obtain ⟨held, hheld⟩ := Option.isSome_iff_exists.1 hrunning
    obtain ⟨made, hmade, hfirst, hgranted⟩ := perform_eq injector clicks held d.attempts
    have hdispatch : (d.dispatch injector (.pointer flags x y)).1 = (perform injector clicks held d.attempts).1 ∧
        (d.dispatch injector (.pointer flags x y)).2.attempts = made ++ d.attempts := by
      rw [dispatch, hheld]
      simp only [InputEvent.actions_of_wheel x y hflags, InputEvent.scrollActions_eq]
      exact ⟨rfl, hmade⟩
    rw [hdispatch.1]
    refine ⟨made, hdispatch.2, fun a ha => ?_, hfirst, hgranted⟩
    exact InputEvent.mem_clicks (hfirst.subset (List.mem_map_of_mem (List.mem_reverse.2 ha)))

/-- A click whose release is refused, and the same click once more, which is granted: the button is up. Turning the wheel
back by two clicks then tries nothing but presses and releases of the other button. -/
theorem wheel_is_down_iff_clicked_again :
    let click := InputEvent.pointer 0x0278 5 5
    let d := (new ⟨64, 32⟩).run
      [.start none, .dispatch (.refusing [.button 4 false]) click, .dispatch (.refusing []) click]
    isWheelButton 4 = true ∧ d.isRunning = true ∧ PointerFlags.wheel.isSet 0x0310 = true ∧
      ¬ (Holdable.button 4).IsDown (d.stop (.refusing [])).attempts ∧
        ∃ made, (d.dispatch (.refusing []) (.pointer 0x0310 5 5)).2.attempts = made ++ d.attempts ∧
          made.reverse.map (·.action) <+: [.button 5 true, .button 5 false, .button 5 true, .button 5 false] := by
  intro click d
  obtain ⟨hdown, hclicks⟩ := wheel_is_down_iff ⟨64, 32⟩
    [.start none, .dispatch (.refusing [.button 4 false]) click, .dispatch (.refusing []) click]
  obtain ⟨made, hmade, -, hfirst, -⟩ := hclicks (.refusing []) 0x0310 5 5 (by decide) (.inl (by decide))
  refine ⟨by decide, by decide, by decide, fun hstuck => ?_, made, hmade, hfirst⟩
  obtain ⟨a, ha, hrefused⟩ := (hdown 4 (.refusing []) (by decide)).1 hstuck
  have hlatest : a = ⟨.button 4 false, none⟩ := Option.some_inj.1 (ha.symm.trans (by decide))
  rw [hlatest] at hrefused
  cases hrefused

/-- **A click whose release is refused leaves the wheel button down.** A stop afterwards has nothing to release, so it
tries nothing, and the latest attempt on the button that was granted is a press. -/
theorem refused_release_leaves_wheel_down :
    let d := (new ⟨64, 32⟩).run [.start none, .dispatch (.refusing [.button 4 false]) (.pointer 0x0278 5 5)]
    let stopped := d.stop (.refusing [])
    d.isRunning = true ∧ stopped.isRunning = false ∧ stopped.attempts = d.attempts ∧
      isWheelButton 4 = true ∧ (Holdable.button 4).IsDown stopped.attempts :=
  ⟨by decide, by decide, by decide, by decide, by unfold Holdable.IsDown; decide⟩

end Dispatcher

end RemoteDesktop
