import RemoteDesktop.Proofs.Connection.Relay
import RemoteDesktop.Proofs.Handover.Agreement
import RemoteDesktop.Session.Course
import RemoteDesktop.Session.Flow

/-!
# A session keeps to the flow of its updates

What a session does in a turn is one of the things that the flow of its updates allows: the flow after the
turn has the encoder and the settings that the session goes on with, and has written what the session counts
(`Session.turn_leaves`). So is what happens between its turns (`Session.after_drives`). A session that is given
away settles by an exchange with the other process who goes on (`Departure.attempt_exchange`). What concerns
leaving rests on one list of what an attempt to leave can come to (`Departure.attempt_ends`).
-/

namespace RemoteDesktop

variable {σ γ : Type} {codec : TileCodec γ} {f : Flow γ}

theorem CloseReason.ofConnection_ne_handedOver (e : ConnectionError) : ofConnection e ≠ .handedOver := by
  cases e <;> simp [ofConnection]

/-! ### Pipelines -/

namespace Pipeline

variable {p q : Pipeline σ γ}

/-- The flow has the encoder and the settings of the pipeline. -/
structure Feeds (p : Pipeline σ γ) (f : Flow γ) : Prop where
  encoder : f.encoder = p.encoder
  settings : f.settings = p.settings

/-- A pipeline starts in the settings it was given, except for the size. -/
theorem encoder_of_start {plan : SessionPlan} {first : Size} {desktop : Desktop σ} {codecState : γ}
    {settings : SessionSettings} (h : start plan first desktop codecState settings = .ok p) :
    ∃ size, p.settings = resized settings size ∧
      (newEncoder plan (resized settings size) codecState).start = .ok p.encoder := by
  obtain ⟨⟨size, capture⟩, -, h⟩ := bind_eq_ok_iff.1 h
  obtain ⟨dispatcher, -, h⟩ := bind_eq_ok_iff.1 h
  obtain ⟨encoder, hencoder, h⟩ := bind_eq_ok_iff.1 h
  cases h
  cases hencoder
  exact ⟨size, rfl, rfl⟩

/-- A resize sets the size in the settings and in the encoder. -/
theorem encoder_of_resize {desktop wanted used : Size} (h : p.resize desktop wanted = .ok (used, q)) :
    q.settings = resized p.settings used ∧
      q.encoder = p.encoder.setOptions (resized p.settings used).encoderOptions := by
  obtain ⟨⟨size, capture⟩, -, h⟩ := bind_eq_ok_iff.1 h
  cases h
  exact ⟨rfl, rfl⟩

end Pipeline

/-! ### Departures -/

namespace Departure

variable {p q : Pipeline σ γ} {steps : DepartureSteps σ γ} {settings : SessionSettings} {injector : Injector}

/-- What an attempt to leave can come to, if the pipeline stops with the given settings. -/
inductive Ends (steps : DepartureSteps σ γ) (p : Pipeline σ γ) (settings : SessionSettings) :
    Departure σ γ → Prop where
  | bound : steps.connection.canDetach = false → Ends steps p settings (.resumed p .transportNotDetachable)
  | unsent (e : ConnectionError) : Ends steps p settings (.lost .sessionClosed (.ofConnection e))
  | kept {e : ConnectionError} :
    steps.connection.detach steps.unavailable = .error e →
      Ends steps p settings (resume steps settings (.detach e))
  | left {d : DetachedConnection} :
    steps.connection.detach steps.unavailable = .ok d → steps.transfer d settings = none →
      Ends steps p settings .transferred
  | refused {d : DetachedConnection} {e : HandoverError} :
    steps.connection.detach steps.unavailable = .ok d → steps.transfer d settings = some e →
      Ends steps p settings (resume steps settings e)
  | cut (e : HandoverError) (cause : ConnectionError) : Ends steps p settings (.lost e (.ofConnection cause))

theorem attempt_ends (steps : DepartureSteps σ γ) (injector : Injector) (p : Pipeline σ γ) :
    Ends steps p (p.stop injector).settings (attempt steps injector p) := by
  rw [attempt]
  split
  next hbound => exact .bound (by simpa using hbound)
  dsimp only
  cases steps.flush with
  | some e => exact .unsent e
  | none =>
    cases hdetach : steps.connection.detach steps.unavailable with
    | error e => exact .kept hdetach
    | ok d =>
      dsimp only
      cases htransfer : steps.transfer d (p.stop injector).settings with
      | none => exact .left hdetach htransfer
      | some e =>
        cases steps.adopt with
        | none => exact .refused hdetach htransfer
        | some cause => exact .cut e cause

/-- A session that goes on here has a new pipeline, or is lost. -/
theorem resume_cases (steps : DepartureSteps σ γ) (settings : SessionSettings) (e : HandoverError) :
    (∃ q, Pipeline.start steps.plan steps.first steps.desktop steps.codecState settings = .ok q ∧
        resume steps settings e = .resumed q e) ∨
      ∃ text, resume steps settings e = .lost e (.internal text) := by
  rw [resume]
  split
  next q hstart => exact .inl ⟨q, hstart, rfl⟩
  next => exact .inr ⟨_, rfl⟩

end Departure

/-- The capture has stopped, the pump has come to its end, and everything is written. -/
structure Flow.Drained (f : Flow γ) : Prop where
  flushing : f.phase = .flushing
  ended : f.pump = .ended
  empty : f.channel = []

namespace Departure

variable {p : Pipeline σ γ} {steps : DepartureSteps σ γ} {settings : SessionSettings}

/-- Where an attempt to leave takes the flow: the connection has left its stream, the session goes on with
another pipeline, or the viewer is served no more. -/
def Takes (settings : SessionSettings) (written : List Update) (g : Flow γ) : Departure σ γ → Prop
  | transferred => g.phase = .detached settings ∧ g.written = written
  | resumed pipeline _ => pipeline.Feeds g ∧ g.phase = .serving ∧ g.written = written
  | lost _ reason => g.phase = .closed ∧ reason ≠ .handedOver

theorem resume_takes {g : Flow γ} (hrun : Flow.Run codec f g)
    (hphase : g.phase = .paused settings ∨ g.phase = .detached settings) (e : HandoverError) :
    ∃ h, Flow.Run codec f h ∧ Takes settings g.written h (resume steps settings e) := by
  rcases resume_cases steps settings e with ⟨q, hstart, hresume⟩ | ⟨text, hresume⟩
  · obtain ⟨size, hsettings, hencoder⟩ := Pipeline.encoder_of_start hstart
    rw [hresume]
    exact ⟨_, .tail hrun (.resume steps.plan size g.capacity steps.codecState hphase hencoder), ⟨rfl, hsettings.symm⟩,
      rfl, rfl⟩
  · rw [hresume]
    exact ⟨_, .tail hrun .close, rfl, by simp⟩

/-- A session that can be given away, and has written everything, leaves by steps of the flow. -/
theorem attempt_takes (codec : TileCodec γ) (injector : Injector) (hdetach : steps.connection.canDetach = true)
    (hp : p.Feeds f) (hf : f.Drained) :
    ∃ g, Flow.Run codec f g ∧ Takes (p.stop injector).settings f.written g (attempt steps injector p) := by
  have hpause : Flow.Run codec f f.paused := .tail (.refl f) (.pause hf.flushing hf.ended hf.empty)
  have hpaused : f.paused.phase = .paused (p.stop injector).settings := by
    rw [Flow.paused, Flow.finalSettings, hp.encoder, hp.settings]
    rfl
  have hends := attempt_ends steps injector p
  generalize attempt steps injector p = departure at hends ⊢
  cases hends with
  | bound hbound =>
    rw [hbound] at hdetach
    cases hdetach
  | unsent e => exact ⟨_, .tail (.refl f) .close, rfl, CloseReason.ofConnection_ne_handedOver e⟩
  | kept _ => exact resume_takes hpause (.inl hpaused) _
  | left _ _ => exact ⟨_, .tail hpause (.detach hpaused), rfl, rfl⟩
  | refused _ _ => exact resume_takes (.tail hpause (.detach hpaused)) (.inr rfl) _
  | cut e cause => exact ⟨_, .tail (.refl f) .close, rfl, CloseReason.ofConnection_ne_handedOver cause⟩

end Departure

/-! ### The exchange of a departure -/

/-- What a giver that is done answers: nothing if the session goes on elsewhere, and else why not. -/
def Exchange.Answers (x : Exchange) : Option HandoverError → Prop
  | none => x.giver = .transferred
  | some e => ∃ returned, x.giver = .failed returned e

namespace Departure

variable {p : Pipeline σ γ} {steps : DepartureSteps σ γ} {settings : SessionSettings} {injector : Injector}

/-- The process that a session is transferred to serves it, and nobody else does. -/
theorem taker_serves {d : DetachedConnection} {x : Exchange} (hrun : Exchange.Run (.initial d settings) x)
    (hanswer : x.Answers none) : x.Serves .taker ∧ ¬ x.Serves .giver := by
  have hx := (Exchange.sound_initial d settings).run hrun
  have htaker := hx.handed hanswer
  exact ⟨htaker, fun hgiver => hx.not_both hgiver htaker⟩

/-- A session that is not taken goes on with the connection it had, and nobody else serves it. -/
theorem giver_serves {c : Connection} (hlimit : c.inbound.reader.limit = Wire.maxFrameLength)
    {unavailable : Option String} {d : DetachedConnection} (hdetach : c.detach unavailable = .ok d) {x : Exchange}
    {e : HandoverError}
    (hrun : Exchange.Run (.initial d settings) x) (hanswer : x.Answers (some e)) :
    ∃ y, Exchange.Run (.initial d settings) y ∧ y.server .giver = some c ∧ ¬ y.Serves .taker := by
  obtain ⟨returned, hgiver⟩ := hanswer
  obtain rfl := ((Exchange.sound_initial d settings).run hrun).returned returned e hgiver
  have hback := hrun.tail (.act (.takeBack hgiver))
  have hserver : Exchange.server { x with giver := .resumed (.adopt returned) e } .giver = some c :=
    congrArg some (Connection.adopt_detach hdetach hlimit)
  refine ⟨_, hback, hserver, fun htaker => ?_⟩
  exact ((Exchange.sound_initial returned settings).run hback).not_both (Option.isSome_iff_exists.2 ⟨_, hserver⟩) htaker

/-- **A session that is given away is served by one process.** Once its connection is off the stream, the two
processes settle by an exchange who goes on. If the session has left, the other process serves; if it goes on
here after an exchange, it does so with the connection it had, and the other process does not serve. -/
theorem attempt_exchange (hlimit : steps.connection.inbound.reader.limit = Wire.maxFrameLength)
    (htransfer : ∀ d settings, ∃ x, Exchange.Run (.initial d settings) x ∧ x.Answers (steps.transfer d settings)) :
    match attempt steps injector p with
    | .transferred =>
      ∃ d x, Exchange.Run (.initial d (p.stop injector).settings) x ∧ x.Serves .taker ∧ ¬ x.Serves .giver
    | .resumed _ e =>
      e = .transportNotDetachable ∨ (∃ cause, e = .detach cause) ∨
        ∃ d x, Exchange.Run (.initial d (p.stop injector).settings) x ∧
          x.server .giver = some steps.connection ∧ ¬ x.Serves .taker
    | .lost _ _ => True := by
  have hends := attempt_ends steps injector p
  generalize attempt steps injector p = departure at hends ⊢
  cases hends with
  | bound _ => exact .inl rfl
  | unsent _ | cut _ _ => trivial
  | @kept e _ =>
    rcases resume_cases steps (p.stop injector).settings (.detach e) with ⟨q, -, hresume⟩ | ⟨text, hresume⟩
    · rw [hresume]
      exact .inr (.inl ⟨e, rfl⟩)
    · rw [hresume]
      trivial
  | left _ hnone =>
    obtain ⟨x, hrun, hanswer⟩ := htransfer _ _
    rw [hnone] at hanswer
    exact ⟨_, x, hrun, taker_serves hrun hanswer⟩
  | @refused d e hdetach hsome =>
    rcases resume_cases steps (p.stop injector).settings e with ⟨q, -, hresume⟩ | ⟨text, hresume⟩
    · obtain ⟨x, hrun, hanswer⟩ := htransfer d (p.stop injector).settings
      rw [hsome] at hanswer
      rw [hresume]
      exact .inr (.inr ⟨d, giver_serves hlimit hdetach hrun hanswer⟩)
    · rw [hresume]
      trivial

end Departure

/-! ### Turns -/

/-- What must have happened before a turn can come: there is an update to write, or the session that is to
leave has written everything. -/
def SessionTurn.Ready (f : Flow γ) : SessionTurn σ γ → Prop
  | .update none => f.phase = .serving ∧ f.channel ≠ []
  | .leave steps => if steps.connection.canDetach then f.Drained else f.phase = .serving
  | _ => f.phase = .serving

namespace Session

variable {s : Session σ γ} {before : Nat}

/-- The session goes on with the flow, which had written some updates before the session began. -/
structure Drives (s : Session σ γ) (before : Nat) (f : Flow γ) : Prop where
  feeds : s.pipeline.Feeds f
  sent : f.written.length = before + s.stats.updatesSent

/-- Where a turn leaves the flow. -/
def Leaves (before : Nat) (g : Flow γ) : Session σ γ × Option CloseReason → Prop
  | (s, none) => s.Drives before g ∧ g.phase = .serving
  | (_, some .handedOver) => ∃ settings, g.phase = .detached settings
  | (_, some _) => g.phase = .closed

theorem leaves_closed (h : f.phase = .closed) {reason : CloseReason} (hreason : reason ≠ .handedOver) :
    Leaves before f (s, some reason) := by
  cases reason <;> first | exact absurd rfl hreason | exact h

/-- An event of the viewer is dealt with by at most one step of the flow. -/
theorem handle_leaves (codec : TileCodec γ) (h : s.Drives before f) (hphase : f.phase = .serving) (desktop : Size)
    (injector : Injector) (event : ViewerEvent) :
    ∃ g, Flow.Run codec f g ∧ Leaves before g (s.handle desktop injector event, none) := by
  obtain ⟨⟨hencoder, hsettings⟩, hsent⟩ := h
  cases event with
  | input event => exact ⟨f, .refl f, ⟨⟨hencoder, hsettings⟩, hsent⟩, hphase⟩
  | refresh =>
    exact ⟨_, .tail (.refl f) (.refresh hphase), ⟨⟨congrArg Encoder.invalidate hencoder, hsettings⟩, hsent⟩, hphase⟩
  | resize wanted =>
    rw [handle]
    cases hresize : s.pipeline.resize desktop wanted with
    | error e => exact ⟨f, .refl f, ⟨⟨hencoder, hsettings⟩, hsent⟩, hphase⟩
    | ok answer =>
      obtain ⟨used, q⟩ := answer
      obtain ⟨hsize, hoptions⟩ := Pipeline.encoder_of_resize hresize
      refine ⟨_, .tail (.refl f) (.resize used hphase), ⟨⟨?_, ?_⟩, hsent⟩, hphase⟩
      · rw [hoptions, hencoder, hsettings]
      · rw [hsize, hsettings]

/-- What must have come before something can happen: a pump that encodes a frame is free to do so. -/
def Happening.Ready (f : Flow γ) : Happening → Prop
  | .encode _ => f.pump = .looking
  | .viewer _ _ _ | .loop | .queue _ => True

/-- Whatever happens while a session runs is a run of the flow, and the session goes on with it. -/
theorem after_drives {source : CaptureSource σ} (codec : TileCodec γ) (h : s.Drives before f)
    (hphase : f.phase = .serving) {happening : Happening} (hready : happening.Ready f) :
    ∃ g, Flow.Run codec f g ∧ (s.after source codec happening).Drives before g ∧ g.phase = .serving := by
  cases happening with
  | viewer desktop injector event => exact handle_leaves codec h hphase desktop injector event
  | loop | queue action => exact ⟨f, .refl f, ⟨⟨h.feeds.encoder, h.feeds.settings⟩, h.sent⟩, hphase⟩
  | encode frame =>
    have hcaptures : f.phase.captures = true := by
      rw [hphase]
      rfl
    have hrun : Flow.Run codec f (Flow.encoded codec frame { f with pump := .busy frame }) :=
      .tail (.tail (.refl f) (.take frame hcaptures hready)) (.encode rfl)
    refine ⟨_, hrun, ?_⟩
    rw [Flow.encoded, after, h.feeds.encoder]
    cases s.pipeline.encoder.encode codec frame <;> exact ⟨⟨⟨rfl, h.feeds.settings⟩, h.sent⟩, hphase⟩

/-- An attempt to leave is a run of the flow; a session whose stream is bound to this process goes on. -/
theorem leave_leaves (codec : TileCodec γ) (h : s.Drives before f) (desktop : Size) (injector : Injector)
    {steps : DepartureSteps σ γ} (hready : (SessionTurn.leave steps).Ready f) :
    ∃ g, Flow.Run codec f g ∧ Leaves before g (s.turn desktop injector (.leave steps)) := by
  rw [SessionTurn.Ready] at hready
  rw [turn]
  split at hready
  next hdetach =>
    obtain ⟨g, hrun, htakes⟩ := Departure.attempt_takes codec injector hdetach h.feeds hready
    refine ⟨g, hrun, ?_⟩
    generalize Departure.attempt steps injector s.pipeline = departure at htakes ⊢
    cases departure with
    | transferred => exact ⟨_, htakes.1⟩
    | resumed pipeline e =>
      obtain ⟨hfeeds, hphase, hwritten⟩ := htakes
      exact ⟨⟨hfeeds, (congrArg List.length hwritten).trans h.sent⟩, hphase⟩
    | lost e reason => exact leaves_closed htakes.1 htakes.2
  next hdetach =>
    have hstays : Departure.attempt steps injector s.pipeline = .resumed s.pipeline .transportNotDetachable := by
      rw [Departure.attempt, if_pos (by simpa using hdetach)]
    rw [hstays]
    exact ⟨f, .tail (.refl f) (.stay hready), h, hready⟩

/-- **A session keeps to the flow of its updates.** Each of its turns is a run of the flow, and the session
goes on with the flow that this comes to, unless it has ended. -/
theorem turn_leaves (codec : TileCodec γ) (h : s.Drives before f) (desktop : Size) (injector : Injector)
    {turn : SessionTurn σ γ} (hready : turn.Ready f) :
    ∃ g, Flow.Run codec f g ∧ Leaves before g (s.turn desktop injector turn) := by
  have hclose : ∀ reason, reason ≠ .handedOver → ∃ g, Flow.Run codec f g ∧ Leaves before g (s, some reason) :=
    fun reason hreason => ⟨_, .tail (.refl f) .close, leaves_closed rfl hreason⟩
  cases turn with
  | viewer received =>
    cases received with
    | item event => exact handle_leaves codec h hready desktop injector event
    | waiting => exact ⟨f, .refl f, h, hready⟩
    | ended => exact hclose _ (by simp)
    | failed e => exact hclose _ (CloseReason.ofConnection_ne_handedOver e)
  | update failure =>
    cases failure with
    | none =>
      obtain ⟨hphase, hchannel⟩ := hready
      obtain ⟨u, rest, hrest⟩ := List.exists_cons_of_ne_nil hchannel
      refine ⟨_, .tail (.refl f) (.write (.inl hphase) hrest), ⟨⟨h.feeds.encoder, h.feeds.settings⟩, ?_⟩, hphase⟩
      rw [List.length_append, h.sent]
      exact Nat.add_assoc ..
    | some e => exact hclose _ (CloseReason.ofConnection_ne_handedOver e)
  | noMoreUpdates => exact hclose _ (by simp)
  | stop => exact hclose _ (by simp)
  | leave steps => exact leave_leaves codec h desktop injector hready

end Session

end RemoteDesktop
