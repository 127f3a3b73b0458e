import RemoteDesktop.Input.Dispatcher.History
import RemoteDesktop.Proofs.Bytes

/-!
# What is held

What a dispatcher has noted as held is what the attempts since its start left pressed (`Held.Tracks`): every
attempt keeps the two in step, also in the middle of an event, and an event tries nothing but its own actions.
So the releases at a stop, which are tried for all that is held whichever of them are refused, are the releases
of all that is pressed, each once.

Main statement: `Dispatcher.nothing_sticks`.
-/

namespace RemoteDesktop

/-! ### Ascending lists -/

namespace Held

variable {α : Type} [LT α] {thing : α} {held : List α}

/-- Each element is smaller than all that follow it. -/
def Ascending (held : List α) : Prop := held.Pairwise (· < ·)

namespace Ascending

theorem nodup_map {β : Type} {f : α → β} [Std.Irrefl (α := α) (· < ·)] (h : Ascending held)
    (hf : ∀ {a b}, f a = f b → a = b) : (held.map f).Nodup := by
  refine List.pairwise_map.2 (List.Pairwise.imp (fun {a b} hlt heq => ?_) h)
  obtain rfl := hf heq
  exact Std.lt_irrefl hlt

variable [DecidableEq α] [DecidableLT α] [LE α] [Std.IsLinearOrder α] [Std.LawfulOrderLT α]

theorem insert (h : Ascending held) : Ascending (insert thing held) := by
  induction held with
  | nil => exact List.pairwise_singleton _ _
  | cons first rest ih =>
    obtain ⟨hfirst, hrest⟩ := List.pairwise_cons.1 h
    rw [Held.insert]
    split
    next => exact h
    next hne =>
      split
      next hlt =>
        refine List.pairwise_cons.2 ⟨fun other hother => ?_, h⟩
        rcases List.mem_cons.1 hother with rfl | hother
        · exact hlt
        · exact Std.lt_trans hlt (hfirst other hother)
      next hnlt =>
        refine List.pairwise_cons.2 ⟨fun other hother => ?_, ih hrest⟩
        rcases mem_insert.1 hother with rfl | hother
        · exact Std.lt_of_le_of_ne (Std.not_lt.1 hnlt) (Ne.symm hne)
        · exact hfirst other hother

theorem note (h : Ascending held) (pressed : Bool) : Ascending (note held thing pressed) := by
  rw [Held.note]
  split
  · exact h.insert
  · exact h.filter _

end Ascending

end Held

/-! ### Attempts -/

namespace Holdable

variable {thing : Holdable} {action : Action} {attempts : List Attempt}

theorem not_isDown_nil : ¬ thing.IsDown [] := nofun

/-- A successful attempt decides about the thing it is about, and about no other. -/
theorem isDown_granted :
    thing.IsDown (⟨action, none⟩ :: attempts) ↔
      match action.stroke? with
      | some (other, pressed) => if thing = other then pressed = true else thing.IsDown attempts
      | none => thing.IsDown attempts := by
  have hstroke : Attempt.stroke? ⟨action, none⟩ = action.stroke? := rfl
  rw [IsDown, List.filterMap_cons, hstroke]
  cases action.stroke? with
  | none => rfl
  | some stroke =>
    obtain ⟨other, pressed⟩ := stroke
    simp only [List.lookup_cons]
    by_cases heq : thing = other
    · simp [heq]
    · simp [heq, beq_eq_false_iff_ne.2 heq, IsDown]

theorem isDown_refused {e : InputError} : thing.IsDown (⟨action, some e⟩ :: attempts) ↔ thing.IsDown attempts :=
  Iff.rfl

end Holdable

/-- The buttons that events press and release. -/
def buttonNumbers : List UInt8 := [1, 2, 3, 4, 5, 6, 7, 8, 9]

/-- If the action is one of a button, a pointer has that button. -/
def Action.IsUsual : Action → Prop
  | button number _ => number ∈ buttonNumbers
  | key _ _ | keysym _ _ | motion _ _ => True

/-- A usual button can be held exactly if it belongs to no wheel. -/
theorem mem_buttons_iff : ∀ number ∈ buttonNumbers, number ∈ Holdable.buttons ↔ isWheelButton number = false := by
  simp [buttonNumbers, Holdable.buttons, isWheelButton]

namespace Held

variable {held : Held} {action : Action} {attempts : List Attempt} {thing : Holdable}

/-- An action changes whether the thing it is about is held, if that can be held, and nothing else. -/
theorem has_after (h : action.IsUsual) :
    (held.after action).Has thing ↔
      match action.stroke? with
      | some (other, pressed) => if thing = other ∧ thing.CanBeHeld then pressed = true else held.Has thing
      | none => held.Has thing := by
  cases action with
  | key keycode pressed => cases thing <;> simp [after, Has, Action.stroke?, Holdable.CanBeHeld, mem_note]
  | keysym symbol pressed => cases thing <;> simp [after, Has, Action.stroke?, Holdable.CanBeHeld, mem_note]
  | motion x y => rfl
  | button number pressed =>
    have hkept := mem_buttons_iff number h
    cases thing with
    | key other | keysym other => simp only [after]; split <;> simp [Has, Action.stroke?]
    | button other =>
      simp only [after, Action.stroke?, Holdable.CanBeHeld, Holdable.button.injEq]
      by_cases heq : other = number
      · subst heq
        cases hwheel : isWheelButton other <;> simp [Has, mem_note, hkept, hwheel]
      · cases hwheel : isWheelButton number <;> simp [Has, mem_note, heq]

/-- What is noted as held is what the attempts have left pressed. -/
structure Tracks (held : Held) (attempts : List Attempt) : Prop where
  shows : held.Shows attempts
  keycodes : Ascending held.keycodes
  keysyms : Ascending held.keysyms
  buttons : Ascending held.buttons

theorem tracks_nil : Tracks {} [] where
  shows thing := by cases thing <;> simp [Has, Holdable.not_isDown_nil]
  keycodes := List.Pairwise.nil
  keysyms := List.Pairwise.nil
  buttons := List.Pairwise.nil

namespace Tracks

theorem refused (h : held.Tracks attempts) (e : InputError) : held.Tracks (⟨action, some e⟩ :: attempts) where
  shows := h.shows
  keycodes := h.keycodes
  keysyms := h.keysyms
  buttons := h.buttons

theorem granted (h : held.Tracks attempts) (husual : action.IsUsual) :
    (held.after action).Tracks (⟨action, none⟩ :: attempts) where
  shows thing := by
    rw [has_after husual, Holdable.isDown_granted]
    cases action.stroke? with
    | none => exact h.shows thing
    | some stroke =>
      obtain ⟨other, pressed⟩ := stroke
      have hshown := h.shows thing
      by_cases heq : thing = other <;> by_cases hheld : thing.CanBeHeld <;> simp_all
  keycodes := by
    cases action with
    | key keycode pressed => exact h.keycodes.note pressed
    | keysym | motion => exact h.keycodes
    | button number pressed => rw [after]; split <;> exact h.keycodes
  keysyms := by
    cases action with
    | keysym symbol pressed => exact h.keysyms.note pressed
    | key | motion => exact h.keysyms
    | button number pressed => rw [after]; split <;> exact h.keysyms
  buttons := by
    cases action with
    | key | keysym | motion => exact h.buttons
    | button number pressed =>
      rw [after]
      split
      · exact h.buttons
      · exact h.buttons.note pressed

end Tracks

/-! ### Releases -/

theorem mem_releases : action ∈ held.releases ↔ ∃ thing, held.Has thing ∧ action = thing.release := by
  constructor
  · intro h
    simp only [releases, List.mem_append, List.mem_map] at h
    rcases h with (⟨keycode, hmem, rfl⟩ | ⟨symbol, hmem, rfl⟩) | ⟨number, hmem, rfl⟩
    · exact ⟨.key keycode, hmem, rfl⟩
    · exact ⟨.keysym symbol, hmem, rfl⟩
    · exact ⟨.button number, hmem, rfl⟩
  · rintro ⟨thing, hheld, rfl⟩
    cases thing <;> simpa [releases, Holdable.release, Has] using hheld

theorem Tracks.nodup_releases (h : held.Tracks attempts) : held.releases.Nodup := by
  have hkeycodes := h.keycodes.nodup_map (f := (Action.key · false)) fun heq => (Action.key.inj heq).1
  have hkeysyms := h.keysyms.nodup_map (f := (Action.keysym · false)) fun heq => (Action.keysym.inj heq).1
  have hbuttons := h.buttons.nodup_map (f := (Action.button · false)) fun heq => (Action.button.inj heq).1
  refine List.nodup_append.2 ⟨List.nodup_append.2 ⟨hkeycodes, hkeysyms, ?_⟩, hbuttons, ?_⟩ <;>
    simp only [List.mem_append, List.mem_map] <;> grind

end Held

/-! ### Events -/

namespace InputEvent

variable {bounds : Bounds} {event : InputEvent} {actions : List Action}

theorem isUsual_buttonActions {buttons : List (Flag × UInt8)} (h : ∀ b ∈ buttons, b.2 ∈ buttonNumbers) (word : UInt16)
    (pressed : Bool) : ∀ action ∈ buttonActions buttons word pressed, action.IsUsual := by
  intro action haction
  obtain ⟨b, hb, rfl⟩ := List.mem_map.1 haction
  exact h b (List.mem_filter.1 hb).1

theorem wheelButton_mem (horizontal : Bool) (rotation : Int) : wheelButton horizontal rotation ∈ buttonNumbers := by
  unfold wheelButton
  split <;> split <;> decide

theorem isUsual_scrollActions (word : UInt16) : ∀ action ∈ scrollActions word, action.IsUsual := by
  intro action haction
  obtain ⟨click, hclick, haction⟩ := List.mem_flatten.1 haction
  rw [(List.mem_replicate.1 hclick).2] at haction
  simp only [List.mem_cons, List.not_mem_nil, or_false] at haction
  rcases haction with rfl | rfl <;> exact wheelButton_mem _ _

/-- Events are about usual buttons only. -/
theorem isUsual_of_actions (h : event.actions bounds = .ok actions) : ∀ action ∈ actions, action.IsUsual := by
  cases event with
  | scancode flags code =>
    rw [InputEvent.actions] at h
    cases hkey : Scancode.keycode code (KeyboardFlags.extended.isSet flags) (KeyboardFlags.extended1.isSet flags) with
    | error e => rw [hkey] at h; cases h
    | ok keycode =>
      rw [hkey] at h
      cases h
      intro action haction
      rw [List.mem_singleton.1 haction]
      trivial
  | unicode flags codeUnit =>
    rw [InputEvent.actions] at h
    split at h
    · cases h
    · cases h
      intro action haction
      rw [List.mem_singleton.1 haction]
      trivial
  | pointer flags x y =>
    rw [InputEvent.actions] at h
    split at h
    · cases h
      exact isUsual_scrollActions flags
    · cases h
      intro action haction
      rcases List.mem_append.1 haction with hmotion | hbutton
      · split at hmotion
        · rw [List.mem_singleton.1 hmotion]
          trivial
        · cases hmotion
      · exact isUsual_buttonActions (by decide) _ _ action hbutton
  | extendedPointer flags x y =>
    cases h
    intro action haction
    rcases List.mem_cons.1 haction with rfl | hbutton
    · trivial
    · exact isUsual_buttonActions (by decide) _ _ action hbutton

end InputEvent

/-! ### Runs -/

namespace Dispatcher

variable {d : Dispatcher} {held : Held} {attempts : List Attempt} {actions : List Action}

/-- However far an event gets, what is noted as held is what is pressed. -/
theorem tracks_perform (injector : Injector) (husual : ∀ action ∈ actions, action.IsUsual)
    (h : held.Tracks attempts) :
    (perform injector actions held attempts).2.1.Tracks (perform injector actions held attempts).2.2 := by
  induction actions generalizing held attempts with
  | nil => exact h
  | cons action rest ih =>
    obtain ⟨haction, hrest⟩ := List.forall_mem_cons.1 husual
    rw [perform]
    cases hanswer : injector attempts action with
    | some e => exact h.refused e
    | none => exact ih hrest (h.granted haction)

/-- The first actions of an event are tried in order, up to the first refusal, if there is one. -/
theorem perform_eq (injector : Injector) (actions : List Action) (held : Held) (attempts : List Attempt) :
    ∃ made, (perform injector actions held attempts).2.2 = made ++ attempts ∧
      made.reverse.map (·.action) <+: actions ∧
        ((∀ a ∈ made, a.succeeded = true) →
          (perform injector actions held attempts).1 = .ok () ∧ made.reverse.map (·.action) = actions) := by
  induction actions generalizing held attempts with
  | nil => exact ⟨[], rfl, List.prefix_rfl, fun _ => ⟨rfl, rfl⟩⟩
  | cons action rest ih =>
    rw [perform]
    cases hanswer : injector attempts action with
    | some e =>
      refine ⟨[⟨action, some e⟩], rfl, ⟨rest, rfl⟩, fun hgranted => ?_⟩
      cases hgranted _ List.mem_cons_self
    | none =>
      obtain ⟨made, hall, hfirst, hgranted⟩ := ih (held.after action) (⟨action, none⟩ :: attempts)
      have hmade : (made ++ [(⟨action, none⟩ : Attempt)]).reverse.map (·.action) =
          action :: made.reverse.map (·.action) := by simp
      refine ⟨made ++ [⟨action, none⟩], ?_, ?_, fun h => ?_⟩
      · rw [List.append_assoc]
        exact hall
      · rw [hmade]
        exact List.cons_prefix_cons.2 ⟨rfl, hfirst⟩
      · obtain ⟨hok, hrest⟩ := hgranted fun a ha => h a (List.mem_append_left _ ha)
        rw [hmade, hrest]
        exact ⟨hok, rfl⟩

/-- Only the actions of an event are attempted. -/
theorem perform_attempts (injector : Injector) (actions : List Action) (held : Held) (attempts : List Attempt) :
    ∃ made, (perform injector actions held attempts).2.2 = made ++ attempts ∧ ∀ a ∈ made, a.action ∈ actions := by
  obtain ⟨made, hall, hfirst, -⟩ := perform_eq injector actions held attempts
  refine ⟨made, hall, fun a ha => hfirst.subset ?_⟩
  exact List.mem_map_of_mem (List.mem_reverse.2 ha)

/-- Every action is tried once, whichever are refused. -/
theorem attemptAll_eq (injector : Injector) (actions : List Action) (attempts : List Attempt) :
    ∃ made, attemptAll injector actions attempts = made ++ attempts ∧ made.map (·.action) = actions.reverse := by
  induction actions generalizing attempts with
  | nil => exact ⟨[], rfl, rfl⟩
  | cons action rest ih =>
    obtain ⟨made, hall, hmade⟩ := ih (⟨action, injector attempts action⟩ :: attempts)
    refine ⟨made ++ [⟨action, injector attempts action⟩], ?_, ?_⟩
    · rw [List.append_assoc]
      exact hall
    · rw [List.map_append, hmade, List.reverse_cons]
      rfl

/-- Whoever starts a dispatcher starts it with nothing held. -/
theorem start_eq_ok {unavailable : Option String} {started : Dispatcher} (h : d.start unavailable = .ok started) :
    started = { d with held := some {}, attempts := [] } := by
  unfold start at h
  split at h
  · cases h
  · cases unavailable with
    | some reason => cases h
    | none => exact (Except.ok.inj h).symm

/-- What the dispatcher has noted is right, if it runs. -/
def Tracks (d : Dispatcher) : Prop := ∀ held, d.held = some held → held.Tracks d.attempts

namespace Tracks

theorem new (desktop : Size) : (new desktop).Tracks := nofun

theorem start (h : d.Tracks) (unavailable : Option String) : (d.after (.start unavailable)).Tracks := by
  simp only [after]
  split
  next started hstarted =>
    rw [start_eq_ok hstarted]
    intro held heq
    obtain rfl := Option.some_inj.1 heq
    exact Held.tracks_nil
  next => exact h

theorem stop (injector : Injector) : (d.stop injector).Tracks := by
  intro held heq
  rw [Dispatcher.stop] at heq
  split at heq
  next hstopped =>
    rw [hstopped] at heq
    cases heq
  next => cases heq

theorem dispatch (h : d.Tracks) (injector : Injector) (event : InputEvent) : (d.dispatch injector event).2.Tracks := by
  rw [Dispatcher.dispatch]
  cases hheld : d.held with
  | none => exact h
  | some held =>
    have htracks := h held hheld
    cases hactions : event.actions d.bounds with
    | error e =>
      intro held' heq
      obtain rfl := Option.some_inj.1 heq
      exact htracks
    | ok actions =>
      have hafter := tracks_perform injector (InputEvent.isUsual_of_actions hactions) htracks
      intro held' heq
      obtain rfl := Option.some_inj.1 heq
      exact hafter

theorem after (h : d.Tracks) (call : Call) : (d.after call).Tracks := by
  cases call with
  | start unavailable => exact h.start unavailable
  | stop injector => exact stop injector
  | resize desktop => exact h
  | dispatch injector event => exact h.dispatch injector event

theorem run (h : d.Tracks) (calls : List Call) : (d.run calls).Tracks := by
  induction calls generalizing d with
  | nil => exact h
  | cons call calls ih => exact ih (h.after call)

end Tracks

/-- **Nothing sticks.** Whatever is done to a dispatcher, and whichever attempts are refused: as long as it runs,
what it has noted as held is what the latest successful attempt since the start has pressed, among keycodes, symbols
and the buttons that can be held, and so it is in the middle of an event, when only the first of its actions have
been tried. A stop tries to release each of these things once, tries nothing else, and notes nothing any more. A
stopped dispatcher tries and counts nothing, and starts with nothing held. -/
theorem nothing_sticks (desktop : Size) (calls : List Call) :
    let d := (new desktop).run calls
    (∀ held, d.held = some held →
      held.Shows d.attempts ∧
        (∀ injector (event : InputEvent) earlier later, event.actions d.bounds = .ok (earlier ++ later) →
          (perform injector earlier held d.attempts).2.1.Shows (perform injector earlier held d.attempts).2.2) ∧
        (∀ unavailable, d.start unavailable = .error .alreadyRunning) ∧
        ∀ injector, (d.stop injector).held = none ∧
          ∃ made, (d.stop injector).attempts = made ++ d.attempts ∧ (made.map (·.action)).Nodup ∧
            ∀ action, action ∈ made.map (·.action) ↔
              ∃ thing : Holdable, thing.CanBeHeld ∧ thing.IsDown d.attempts ∧ action = thing.release) ∧
      (d.held = none →
        (∀ injector event, d.dispatch injector event = (.error .notRunning, d)) ∧
          (∀ injector, d.stop injector = d) ∧
          d.start none = .ok { d with held := some {}, attempts := [] }) := by
  intro d
  have htracks : d.Tracks := (Tracks.new desktop).run calls
  refine ⟨fun held hheld => ?_, fun hstopped => ?_⟩
  · have hnow := htracks held hheld
    refine ⟨hnow.shows, fun injector event earlier later hactions => ?_, fun unavailable => ?_, fun injector => ?_⟩
    · have husual := InputEvent.isUsual_of_actions hactions
      exact (tracks_perform injector (fun action h => husual action (List.mem_append_left _ h)) hnow).shows
    · simp [start, isRunning, hheld]
    · obtain ⟨made, hall, hmade⟩ := attemptAll_eq injector held.releases d.attempts
      rw [stop, hheld]
      refine ⟨rfl, made, hall, ?_, fun action => ?_⟩
      · rw [hmade]
        exact List.pairwise_reverse.2 (hnow.nodup_releases.imp Ne.symm)
      · rw [hmade, List.mem_reverse, Held.mem_releases]
        simp only [hnow.shows _, and_assoc]
  · refine ⟨fun injector event => ?_, fun injector => ?_, ?_⟩
    · rw [dispatch, hstopped]
    · rw [stop, hstopped]
    · simp [start, isRunning, hstopped]

/-- Two buttons are pressed in one event, and the second is refused: only the first is released. -/
example :
    ((new ⟨100, 50⟩).run [.start none, .dispatch (.refusing [.button 3 true]) (.pointer 0xB000 5 5),
      .stop (.refusing [])]).attempts.map (·.action) =
        [.button 1 false, .button 3 true, .button 1 true, .motion 5 5] := by decide

end Dispatcher

end RemoteDesktop
