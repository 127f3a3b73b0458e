import RemoteDesktop.Proofs.Capture.Geometry
import RemoteDesktop.Proofs.Input.Held
import RemoteDesktop.Proofs.Painting
import RemoteDesktop.Session.Course

/-!
# One geometry for all of a session

The settings, the encoder, the capture and the dispatcher of a session each keep the size of the picture. They
agree from the start (`Pipeline.agrees_start`), and whatever happens keeps them agreed (`Session.agrees_after`).
An event moves the pointer only within the bounds in force (`Dispatcher.dispatch_attempts`).

Main statement: `Session.geometry_stays_consistent`.
-/

namespace RemoteDesktop

/-! ### The pointer -/

namespace Bounds

theorem toNat_side (length : UInt32) : (side length).toNat = max 1 (min length.toNat 65535) :=
  UInt16.toNat_ofNat_of_lt' (show max 1 (min length.toNat 65535) < 65536 by omega)

theorem clamp_lt {side : UInt16} (hside : 0 < side.toNat) (coordinate : UInt16) : clamp side coordinate < side := by
  have hlt := side.toNat_lt
  rw [UInt16.lt_iff_toNat_lt, clamp, UInt16.toNat_ofNat_of_lt' (show _ < 65536 by omega)]
  omega

/-- There is a place for the pointer. -/
def Roomy (bounds : Bounds) : Prop := 0 < bounds.width.toNat ∧ 0 < bounds.height.toNat

theorem roomy_ofSize (size : Size) : (ofSize size).Roomy := by
  constructor
  · show 0 < (side size.width).toNat
    rw [toNat_side]
    omega
  · show 0 < (side size.height).toNat
    rw [toNat_side]
    omega

/-- If the action moves the pointer, then to a place within the bounds. -/
def Hold (bounds : Bounds) (action : Action) : Prop :=
  ∀ x y, action = .motion x y → x < bounds.width ∧ y < bounds.height

variable {bounds : Bounds}

/-! Keys and buttons do not move the pointer. -/

theorem hold_key (keycode : UInt8) (pressed : Bool) : bounds.Hold (.key keycode pressed) := by simp [Hold]

theorem hold_keysym (keysym : UInt32) (pressed : Bool) : bounds.Hold (.keysym keysym pressed) := by simp [Hold]

theorem hold_button (number : UInt8) (pressed : Bool) : bounds.Hold (.button number pressed) := by simp [Hold]

theorem hold_clamp (h : bounds.Roomy) (x y : UInt16) :
    bounds.Hold (.motion (clamp bounds.width x) (clamp bounds.height y)) := by
  rintro _ _ ⟨⟩
  exact ⟨clamp_lt h.1 x, clamp_lt h.2 y⟩

theorem hold_buttonActions (buttons : List (Flag × UInt8)) (word : UInt16) (pressed : Bool) :
    ∀ action ∈ InputEvent.buttonActions buttons word pressed, bounds.Hold action := by
  intro action haction
  obtain ⟨b, -, rfl⟩ := List.mem_map.1 haction
  exact hold_button _ _

theorem hold_scrollActions (word : UInt16) : ∀ action ∈ InputEvent.scrollActions word, bounds.Hold action := by
  intro action haction
  obtain ⟨click, hclick, haction⟩ := List.mem_flatten.1 haction
  obtain rfl := List.eq_of_mem_replicate hclick
  rcases List.mem_cons.1 haction with rfl | haction
  · exact hold_button _ _
  · obtain rfl := List.mem_singleton.1 haction
    exact hold_button _ _

/-- An event is planned within the bounds. -/
theorem hold_actions (h : bounds.Roomy) {event : InputEvent} {actions : List Action}
    (hactions : event.actions bounds = .ok actions) : ∀ action ∈ actions, bounds.Hold action := by
  cases event with
  | scancode flags code =>
    simp only [InputEvent.actions, bind, Except.bind, pure, Except.pure] at hactions
    split at hactions
    · cases hactions
    · cases hactions
      exact List.forall_mem_singleton.2 (hold_key _ _)
  | unicode flags codeUnit =>
    simp only [InputEvent.actions] at hactions
    split at hactions
    · cases hactions
    · cases hactions
      exact List.forall_mem_singleton.2 (hold_keysym _ _)
  | pointer flags x y =>
    simp only [InputEvent.actions] at hactions
    split at hactions
    · cases hactions
      exact hold_scrollActions flags
    · cases hactions
      refine List.forall_mem_append.2 ⟨?_, hold_buttonActions _ _ _⟩
      split
      · exact List.forall_mem_singleton.2 (hold_clamp h x y)
      · exact List.forall_mem_nil _
  | extendedPointer flags x y =>
    cases hactions
    exact List.forall_mem_cons.2 ⟨hold_clamp h x y, hold_buttonActions _ _ _⟩

end Bounds

namespace Dispatcher

/-- An event leaves the bounds as they are, and moves the pointer only within them. -/
theorem dispatch_attempts {d : Dispatcher} (h : d.bounds.Roomy) (injector : Injector) (event : InputEvent) :
    (d.dispatch injector event).2.bounds = d.bounds ∧
      ∃ made, (d.dispatch injector event).2.attempts = made ++ d.attempts ∧ ∀ a ∈ made, d.bounds.Hold a.action := by
  rw [dispatch]
  cases d.held with
  | none => exact ⟨rfl, [], rfl, by simp⟩
  | some held =>
    cases hactions : event.actions d.bounds with
    | error e => exact ⟨rfl, [], rfl, by simp⟩
    | ok actions =>
      obtain ⟨made, hmade, hall⟩ := perform_attempts injector actions held d.attempts
      simp only
      refine ⟨?_, made, hmade, fun a ha => Bounds.hold_actions h hactions _ (hall a ha)⟩
      split <;> rfl

end Dispatcher

/-! ### The parts of a session -/

theorem Encoder.options_of_encode {γ : Type} {codec : TileCodec γ} {e after : Encoder γ} {f : Frame}
    {result : Except EncoderError (Option Update)} (h : e.encode codec f = .ok (result, after)) :
    after.options = e.options := by
  cases gives_of_encode h <;> rfl

/-- A side that was asked for is at most as long as the desktop, and not empty unless the desktop is. -/
theorem clampSide_spec {wanted : UInt32} (h : wanted ≠ 0) (limit : UInt32) :
    clampSide wanted limit ≤ limit ∧ (clampSide wanted limit = 0 → limit = 0) := by
  have hwanted : wanted.toNat ≠ 0 := fun h0 => h (UInt32.toNat_inj.1 h0)
  rw [clampSide, if_neg h, UInt32.le_iff_toNat_le, ← UInt32.toNat_inj, ← UInt32.toNat_inj, Word.toNat_min,
    UInt32.toNat_zero]
  omega

/-- A capture starts with the geometry that it answers with. -/
theorem Capture.geometry_of_start {σ : Type} {source : CaptureSource σ} {openSource : Size → Except CaptureError σ}
    {c started : Capture σ} {desktop wanted size : Size}
    (h : c.start source openSource desktop wanted = .ok (size, started)) : started.geometry = some size := by
  obtain ⟨state, -, hrun⟩ := start_eq_ok h
  rw [geometry, hrun]
  rfl

namespace Pipeline

variable {σ γ : Type} {p : Pipeline σ γ}

/-- When a session starts, its parts agree on the size, and nothing has been injected. -/
theorem agrees_start {plan : SessionPlan} {first : Size} {desktop : Desktop σ} {codecState : γ}
    {settings : SessionSettings} (h : start plan first desktop codecState settings = .ok p) :
    p.Agrees ∧ p.dispatcher.attempts = [] := by
  simp only [start, bind, Except.bind] at h
  cases hcapture : (Capture.mk plan.framesPerSecond none).start desktop.source desktop.openSource desktop.size
      (first.clampTo settings.size) with
  | error e =>
    rw [hcapture] at h
    cases h
  | ok answer =>
    obtain ⟨size, capture⟩ := answer
    rw [hcapture] at h
    cases hinput : (Dispatcher.new desktop.size).start desktop.noInjector with
    | error e =>
      rw [hinput] at h
      cases h
    | ok dispatcher =>
      rw [hinput] at h
      cases h
      rw [Dispatcher.start_eq_ok hinput]
      exact ⟨⟨rfl, Capture.geometry_of_start hcapture, rfl⟩, rfl⟩

theorem resize_of_isEmptySize (p : Pipeline σ γ) (desktop : Size) {wanted : Size} (h : Capture.isEmptySize wanted = true) :
    p.resize desktop wanted = .error (.capture (.invalidGeometry wanted)) := by
  rw [resize, Capture.setGeometry_of_isEmptySize h]
  rfl

/-- A running session takes every size that is not empty, as far as the desktop has room. -/
theorem resize_eq_ok (h : p.Agrees) (desktop : Size) {wanted : Size} (hwanted : Capture.isEmptySize wanted = false) :
    ∃ next, p.resize desktop wanted = .ok (desktop.clampTo wanted, next) ∧
      next.settings.size = desktop.clampTo wanted ∧ next.dispatcher.attempts = p.dispatcher.attempts := by
  obtain ⟨-, hgeometry, -⟩ := h
  obtain ⟨r, hrun, -⟩ := Option.map_eq_some_iff.1 hgeometry
  rw [resize, Capture.setGeometry_eq desktop hrun hwanted]
  exact ⟨_, rfl, rfl, rfl⟩

end Pipeline

/-! ### The session -/

namespace Session

variable {σ γ : Type} {source : CaptureSource σ} {codec : TileCodec γ} {s : Session σ γ}

theorem agrees_onRun (h : s.pipeline.Agrees) {change : Capture.Run σ → Capture.Run σ}
    (hchange : ∀ r, (change r).geometry = r.geometry) : (s.onRun change).pipeline.Agrees := by
  obtain ⟨hencoder, hgeometry, hbounds⟩ := h
  refine ⟨hencoder, ?_, hbounds⟩
  obtain ⟨r, hrun, hsize⟩ := Option.map_eq_some_iff.1 hgeometry
  show Option.map _ (Option.map change s.pipeline.capture.run) = some s.pipeline.settings.size
  rw [hrun, ← hsize]
  exact congrArg some (hchange r)

theorem handle_of_refused {desktop wanted : Size} {injector : Injector} {e : SessionError}
    (h : s.pipeline.resize desktop wanted = .error e) : s.handle desktop injector (.resize wanted) = s := by
  rw [handle, h]

theorem handle_of_resized {desktop wanted used : Size} {injector : Injector} {pipeline : Pipeline σ γ}
    (h : s.pipeline.resize desktop wanted = .ok (used, pipeline)) :
    s.handle desktop injector (.resize wanted) = { s with pipeline } := by
  rw [handle, h]

/-- Whatever happens, the parts of the session agree on the size. -/
theorem agrees_after (h : s.pipeline.Agrees) (happening : Happening) :
    (s.after source codec happening).pipeline.Agrees := by
  cases happening with
  | viewer desktop injector event =>
    cases event with
    | input event =>
      obtain ⟨hencoder, hgeometry, hbounds⟩ := h
      have hroomy : s.pipeline.dispatcher.bounds.Roomy := hbounds ▸ Bounds.roomy_ofSize _
      exact ⟨hencoder, hgeometry, (Dispatcher.dispatch_attempts hroomy injector event).1.trans hbounds⟩
    | refresh => exact h
    | resize wanted =>
      cases hresize : s.pipeline.resize desktop wanted with
      | error e =>
        rw [after, handle_of_refused hresize]
        exact h
      | ok answer =>
        rw [after, handle_of_resized hresize]
        exact Pipeline.agrees_resize hresize
  | loop => exact agrees_onRun h fun r => (r.moves source).geometry_eq
  | queue action => exact agrees_onRun h fun _ => rfl
  | encode frame =>
    rw [after]
    cases hencode : s.pipeline.encoder.encode codec frame with
    | error fault => exact h
    | ok answer =>
      obtain ⟨hencoder, hgeometry, hbounds⟩ := h
      exact ⟨(Encoder.options_of_encode hencode).trans hencoder, hgeometry, hbounds⟩

theorem agrees_course (h : s.pipeline.Agrees) (happenings : List Happening) :
    (s.course source codec happenings).pipeline.Agrees := by
  induction happenings generalizing s with
  | nil => exact h
  | cons happening happenings ih => exact ih (agrees_after h happening)

/-- Only events of the viewer are injected, and they move the pointer within the bounds in force. -/
theorem attempts_after (h : s.pipeline.Agrees) (happening : Happening) :
    ∃ made, (s.after source codec happening).pipeline.dispatcher.attempts = made ++ s.pipeline.dispatcher.attempts ∧
      ∀ a ∈ made, s.pipeline.dispatcher.bounds.Hold a.action := by
  cases happening with
  | viewer desktop injector event =>
    cases event with
    | input event =>
      have hroomy : s.pipeline.dispatcher.bounds.Roomy := h.2.2 ▸ Bounds.roomy_ofSize _
      exact (Dispatcher.dispatch_attempts hroomy injector event).2
    | refresh => exact ⟨[], rfl, by simp⟩
    | resize wanted =>
      refine ⟨[], ?_, by simp⟩
      cases hwanted : Capture.isEmptySize wanted with
      | true => rw [after, handle_of_refused (Pipeline.resize_of_isEmptySize _ desktop hwanted), List.nil_append]
      | false =>
        obtain ⟨next, hnext, -, hattempts⟩ := Pipeline.resize_eq_ok h desktop hwanted
        rw [after, handle_of_resized hnext]
        exact hattempts
  | loop => exact ⟨[], rfl, by simp⟩
  | queue action => exact ⟨[], rfl, by simp⟩
  | encode frame =>
    refine ⟨[], ?_, by simp⟩
    rw [after]
    cases s.pipeline.encoder.encode codec frame <;> rfl

/-- What becomes of a session that is asked for another size. -/
theorem handle_resize (h : s.pipeline.Agrees) (desktop : Size) (injector : Injector) (wanted : Size) :
    let next := s.handle desktop injector (.resize wanted)
    ((∃ e, s.pipeline.resize desktop wanted = .error e) ↔ wanted.width = 0 ∨ wanted.height = 0) ∧
      (∀ e, s.pipeline.resize desktop wanted = .error e → next = s) ∧
      ∀ used pipeline, s.pipeline.resize desktop wanted = .ok (used, pipeline) →
        next.pipeline = pipeline ∧ pipeline.settings.size = used ∧
          (used.width ≤ desktop.width ∧ used.height ≤ desktop.height) ∧
          (used.width = 0 → desktop.width = 0) ∧ (used.height = 0 → desktop.height = 0) := by
  intro next
  have hempty : Capture.isEmptySize wanted = true ↔ wanted.width = 0 ∨ wanted.height = 0 := by
    simp [Capture.isEmptySize]
  cases hwanted : Capture.isEmptySize wanted with
  | true =>
    have hrefused := Pipeline.resize_of_isEmptySize s.pipeline desktop hwanted
    refine ⟨iff_of_true ⟨_, hrefused⟩ (hempty.1 hwanted), fun _ _ => ?_, fun used pipeline hok => ?_⟩
    · exact handle_of_refused hrefused
    · rw [hrefused] at hok
      cases hok
  | false =>
    obtain ⟨pipeline, htaken, hsize, -⟩ := Pipeline.resize_eq_ok h desktop hwanted
    have hsides : ¬ (wanted.width = 0 ∨ wanted.height = 0) := by
      rw [← hempty, hwanted]
      exact Bool.false_ne_true
    obtain ⟨hwidth, hheight⟩ := not_or.1 hsides
    refine ⟨iff_of_false ?_ hsides, fun e he => ?_, fun used pipeline' hok => ?_⟩
    · rintro ⟨e, he⟩
      rw [htaken] at he
      cases he
    · rw [htaken] at he
      cases he
    · rw [htaken] at hok
      cases hok
      obtain ⟨hw, hw0⟩ := clampSide_spec hwidth desktop.width
      obtain ⟨hh, hh0⟩ := clampSide_spec hheight desktop.height
      exact ⟨congrArg Session.pipeline (handle_of_resized htaken), hsize, ⟨hw, hh⟩, hw0, hh0⟩

/-- **One geometry.** Start a session, and let anything happen: the settings, the encoder and the capture have one
size, and the bounds of the pointer are that size, brought into the range from 1 to 65535. Asking for another size
is refused exactly if a side of it is zero, and then it changes nothing; else the size is at most that of the
desktop, and no side of it is zero unless the desktop has none. Whatever is injected moves the pointer within the
bounds in force. -/
theorem geometry_stays_consistent {plan : SessionPlan} {first : Size} {desktop : Desktop σ} {codecState : γ}
    {settings : SessionSettings} {p : Pipeline σ γ}
    (hstart : Pipeline.start plan first desktop codecState settings = .ok p) (codec : TileCodec γ)
    (happenings : List Happening) :
    let s : Session σ γ := course desktop.source codec ⟨p, {}⟩ happenings
    let size := s.pipeline.settings.size
    let bounds := s.pipeline.dispatcher.bounds
    (s.pipeline.encoder.options.size = size ∧ s.pipeline.capture.geometry = some size ∧
        bounds.width.toNat = max 1 (min size.width.toNat 65535) ∧
        bounds.height.toNat = max 1 (min size.height.toNat 65535)) ∧
      (∀ now injector wanted,
        let next := s.handle now injector (.resize wanted)
        ((∃ e, s.pipeline.resize now wanted = .error e) ↔ wanted.width = 0 ∨ wanted.height = 0) ∧
          (∀ e, s.pipeline.resize now wanted = .error e → next = s) ∧
          ∀ used pipeline, s.pipeline.resize now wanted = .ok (used, pipeline) →
            next.pipeline = pipeline ∧ pipeline.settings.size = used ∧
              (used.width ≤ now.width ∧ used.height ≤ now.height) ∧
              (used.width = 0 → now.width = 0) ∧ (used.height = 0 → now.height = 0)) ∧
      p.dispatcher.attempts = [] ∧
      ∀ happening, ∃ made,
        (s.after desktop.source codec happening).pipeline.dispatcher.attempts = made ++ s.pipeline.dispatcher.attempts ∧
          ∀ a ∈ made, ∀ x y, a.action = .motion x y → x < bounds.width ∧ y < bounds.height := by
  intro s size bounds
  obtain ⟨hagrees, hattempts⟩ := Pipeline.agrees_start hstart
  have h : s.pipeline.Agrees := agrees_course hagrees happenings
  have ⟨hencoder, hgeometry, hbounds⟩ := h
  have hwidth : bounds.width = Bounds.side size.width := congrArg Bounds.width hbounds
  have hheight : bounds.height = Bounds.side size.height := congrArg Bounds.height hbounds
  refine ⟨⟨congrArg EncoderOptions.size hencoder, hgeometry, ?_, ?_⟩, handle_resize h, hattempts, attempts_after h⟩
  · rw [hwidth, Bounds.toNat_side]
  · rw [hheight, Bounds.toNat_side]

/-- A desktop of 64 to 32 pixels in memory. -/
def smallDesktop : Desktop Canvas where
  size := ⟨64, 32⟩
  source := Canvas.source (.below 0)
  openSource size := .ok (Capture.smallCanvas false size)

/-- The desktop has become wider than the pointer can count, and the viewer wants more still. -/
def widening : List Happening :=
  [.viewer ⟨70000, 5⟩ (fun _ _ => none) (.resize ⟨80000, 9⟩), .loop,
    .viewer ⟨70000, 5⟩ (fun _ _ => none) (.input (.pointerMove 65535 9)),
    .viewer ⟨64, 32⟩ (fun _ _ => none) (.resize ⟨0, 7⟩)]

theorem geometry_stays_consistent_widening :
    ∃ p : Pipeline Canvas Unit,
      Pipeline.start ⟨30, 64⟩ ⟨64, 32⟩ smallDesktop () ⟨⟨0, 9⟩, .raw, false, 0⟩ = .ok p ∧
      p.settings.size = ⟨64, 9⟩ ∧
      let s : Session Canvas Unit := course smallDesktop.source .lz4 ⟨p, {}⟩ widening
      s.pipeline.settings.size = ⟨70000, 5⟩ ∧ s.pipeline.encoder.options.size = ⟨70000, 5⟩ ∧
        s.pipeline.capture.geometry = some ⟨70000, 5⟩ ∧ s.pipeline.dispatcher.bounds.width.toNat = 65535 ∧
        s.pipeline.dispatcher.bounds.height.toNat = 5 ∧
        s.pipeline.dispatcher.attempts = [⟨.motion 65534 4, none⟩] := by
  have hstart : Pipeline.start ⟨30, 64⟩ ⟨64, 32⟩ smallDesktop () ⟨⟨0, 9⟩, .raw, false, 0⟩ = .ok _ := rfl
  obtain ⟨⟨hencoder, hcapture, hwidth, hheight⟩, -⟩ := geometry_stays_consistent hstart .lz4 widening
  exact ⟨_, hstart, rfl, rfl, hencoder, hcapture, hwidth, hheight, rfl⟩

end Session

end RemoteDesktop
