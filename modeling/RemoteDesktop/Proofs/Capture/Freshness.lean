import RemoteDesktop.Capture.History
import RemoteDesktop.Proofs.Capture.Geometry
import RemoteDesktop.Proofs.Frame.Reuse

/-!
# No frame outlives its geometry

A frame that waits in the queue has the geometry of the source (`Capture.Run.Fresh`), except between a change of
this geometry and the withdrawal of what waits. Between two points of a course the frames go one way: those that are
copied are offered, each once and in order, and those that consumers get are some of the ones that waited at first or
were offered since (`Capture.Run.Flows`). When a change is complete, nothing waits and nothing is in hand, so what
consumers get later was copied later.

Main statement: `Capture.delivers_fresh_frames`.
-/

namespace RemoteDesktop

/-! ### Sources -/

theorem Frame.size_of_configure {memory : Memory} {width height stride : UInt32} {timestamp : Nat} {f configured : Frame}
    (h : f.configure memory width height stride timestamp = .ok configured) : configured.size = ⟨width, height⟩ := by
  obtain ⟨-, -, rfl⟩ := configure_eq_ok_iff.1 h
  rfl

theorem Canvas.steady_source (memory : Memory) : (Canvas.source memory).Steady where
  sized frame canvas copied next h := by
    simp only [Canvas.source] at h
    split at h
    · cases h
    · split at h
      · cases h
      · cases h
      · next hconfigure _ =>
        have hsize := Frame.size_of_configure hconfigure
        cases h
        exact hsize
  kept := (Canvas.faithful_source memory).copied
  unchanged := (Canvas.faithful_source memory).unchanged

theorem Screen.steady_source (memory : Memory) (timestamp : Nat) : (Screen.source memory timestamp).Steady where
  sized frame screen copied next h := by
    simp only [Screen.source] at h
    split at h
    · cases h
    · split at h
      · cases h
      · next hcopy =>
        cases h
        simp only [copyImage] at hcopy
        split at hcopy
        · cases hcopy
        · split at hcopy
          · cases hcopy
          · next hconfigure =>
            have hsize := Frame.size_of_configure hconfigure
            cases hcopy
            exact hsize
  kept := (Screen.faithful_source memory timestamp).copied
  unchanged := (Screen.faithful_source memory timestamp).unchanged

namespace Capture

variable {σ : Type} {source : CaptureSource σ}

/-! ### What a history tells, piece by piece -/

@[simp] theorem copied_append (h more : List Event) : copied (h ++ more) = copied h ++ copied more :=
  List.filterMap_append

@[simp] theorem missed_append (h more : List Event) : missed (h ++ more) = missed h ++ missed more :=
  List.filterMap_append

@[simp] theorem offered_append (h more : List Event) : offered (h ++ more) = offered h ++ offered more :=
  List.filterMap_append

@[simp] theorem delivered_append (h more : List Event) : delivered (h ++ more) = delivered h ++ delivered more :=
  List.filterMap_append

/-! ### The queue, as long as it is not stopped -/

/-- A frame that is pushed waits in place of the one before. -/
theorem push_of_open {q : FrameQueue Frame} (hopen : q.stopped = false) (frame : Frame) :
    q.push frame =
      (q.pending, { q with
        pending := some frame
        stats := { q.stats with
          pushed := q.stats.pushed + 1
          dropped := q.stats.dropped + (if q.pending.isSome then 1 else 0) } }) := by
  obtain ⟨pending, recycled, stopped, stats⟩ := q
  cases hopen
  rfl

/-- A consumer who looks takes what waits. -/
theorem look_of_open {q : FrameQueue Frame} (hopen : q.stopped = false) (timeUp : Bool) :
    (q.act (.look timeUp)).1.delivered? = q.pending ∧
      (q.act (.look timeUp)).2 =
        { q with
          pending := none
          stats := { q.stats with delivered := q.stats.delivered + q.pending.toList.length } } := by
  obtain ⟨pending, recycled, stopped, stats⟩ := q
  cases hopen
  cases pending with
  | none => cases timeUp <;> exact ⟨rfl, rfl⟩
  | some frame => exact ⟨rfl, rfl⟩

/-- Who gives a frame back changes neither what waits nor the counts. -/
theorem recycle_of_open {q : FrameQueue Frame} (hopen : q.stopped = false) (frame : Frame) :
    (q.act (.recycle frame)).2 = { q with recycled := q.recycled <|> some frame } := by
  obtain ⟨pending, recycled, stopped, stats⟩ := q
  cases hopen
  rfl

namespace Run

variable {r : Run σ}

/-! ### The geometry of what waits -/

/-- What waits has the geometry of the source, but for the moment after a change; what is in hand always has it. -/
structure Fresh (source : CaptureSource σ) (r : Run σ) : Prop where
  waiting : r.phase ≠ .changed → ∀ frame ∈ r.queue.pending, frame.size = source.geometry r.source
  inHand : ∀ frame ∈ r.inHand, frame.size = source.geometry r.source

theorem Fresh.initial (state : σ) (geometry : Size) : Fresh source { source := state, geometry } where
  waiting _ := nofun
  inHand := nofun

/-- Nothing more waits or is in hand, and the geometry of the source is the same. -/
theorem Fresh.mono {r' : Run σ} (h : r.Fresh source) (hphase : r'.phase ≠ .changed → r.phase ≠ .changed)
    (hwaiting : ∀ frame ∈ r'.queue.pending, frame ∈ r.queue.pending) (hinHand : ∀ frame ∈ r'.inHand, frame ∈ r.inHand)
    (hgeometry : source.geometry r'.source = source.geometry r.source) : r'.Fresh source where
  waiting hchanged frame hframe := by
    rw [hgeometry]
    exact h.waiting (hphase hchanged) frame (hwaiting frame hframe)
  inHand frame hframe := by
    rw [hgeometry]
    exact h.inHand frame (hinHand frame hframe)

theorem Fresh.moves {event : Option Event} {change : Option Change} {next : Run σ} (hsource : source.Steady)
    (hopen : r.queue.stopped = false) (h : r.Fresh source) (hmoves : r.Moves source event change next) :
    next.Fresh source := by
  cases hmoves with
  | takesUp hphase | goesOn hphase | keeps hphase =>
    exact h.mono (fun _ => by simp [hphase]) (fun _ => id) nofun rfl
  | fetches hphase _ hqueue =>
    cases hqueue
    exact h.mono (fun _ => by simp [hphase]) (fun _ => id) nofun rfl
  | changes =>
    -- The source has changed and what waits has not; nothing is said of it until it is withdrawn.
    exact { waiting := fun hchanged => absurd rfl hchanged, inHand := nofun }
  | @isRefused size e state hphase hanswer =>
    have hunchanged := hsource.unchanged size r.source e
    rw [hanswer] at hunchanged
    exact h.mono (fun _ => by simp [hphase]) (fun _ => id) nofun (hunchanged rfl)
  | withdraws => exact { waiting := fun _ => nofun, inHand := nofun }
  | @misses frame left cause state hphase hgrab =>
    have hkept := hsource.kept frame r.source
    rw [hgrab] at hkept
    exact h.mono (fun _ => by simp [hphase]) (fun _ => id) nofun hkept
  | @copies frame copied state hphase hgrab =>
    have hkept := hsource.kept frame r.source
    rw [hgrab] at hkept
    constructor
    · intro _ waiting hmem
      rw [h.waiting (by simp [hphase]) waiting hmem]
      exact hkept.symm
    · intro inHand hmem
      obtain rfl := Option.some_inj.1 hmem
      rw [hsource.sized frame r.source copied state hgrab]
      exact hkept.symm
  | @offers frame displaced queue hphase hpush =>
    rw [push_of_open hopen] at hpush
    cases hpush
    constructor
    · intro _ waiting hmem
      obtain rfl := Option.some_inj.1 hmem
      exact h.inHand frame (by simp [Run.inHand, hphase])
    · exact nofun

theorem Fresh.act (hsource : source.Steady) (hopen : r.queue.stopped = false) (h : r.Fresh source) (a : Act) :
    (r.act source a).Fresh source := by
  cases a with
  | loop => exact h.moves hsource hopen (r.moves source)
  | setGeometry desktop size =>
    rw [Run.act]
    split
    · exact h
    · exact h.mono id (fun _ => id) (fun _ => id) rfl
  | look timeUp =>
    refine h.mono id (fun frame hframe => ?_) (fun _ => id) rfl
    rw [Run.act, Run.queued, (look_of_open hopen timeUp).2] at hframe
    cases hframe
  | recycle frame =>
    refine h.mono id (fun waiting hwaiting => ?_) (fun _ => id) rfl
    rwa [Run.act, Run.queued, recycle_of_open hopen] at hwaiting

/-! ### The way of the frames -/

/-- The way of the frames from one point of a course to a later one, with what happened to them in between. -/
structure Flows (r : Run σ) (h : List Event) (r' : Run σ) : Prop where
  /-- What is copied is offered, each frame once and in order. -/
  offered : r.inHand.toList ++ copied h = Capture.offered h ++ r'.inHand.toList
  /-- Who takes the frame that waits takes it behind all delivered ones. -/
  delivered : (Capture.delivered h ++ r'.queue.pending.toList).Sublist (r.queue.pending.toList ++ Capture.offered h)
  frames : r'.frames = r.frames + (copied h).length
  failures : r'.failures = r.failures + (missed h).length
  pushed : r'.queue.stats.pushed = r.queue.stats.pushed + (Capture.offered h).length
  taken : r'.queue.stats.delivered = r.queue.stats.delivered + (Capture.delivered h).length
  stopped : r'.queue.stopped = false

namespace Flows

theorem trans {r' r'' : Run σ} {h more : List Event} (first : r.Flows h r') (second : r'.Flows more r'') :
    r.Flows (h ++ more) r'' where
  offered := by
    rw [copied_append, offered_append, ← List.append_assoc, first.offered, List.append_assoc, second.offered,
      List.append_assoc]
  delivered := by
    rw [delivered_append, offered_append, List.append_assoc, ← List.append_assoc r.queue.pending.toList]
    refine .trans (second.delivered.append_left _) ?_
    rw [← List.append_assoc]
    exact first.delivered.append_right _
  frames := by rw [second.frames, first.frames, copied_append, List.length_append, Nat.add_assoc]
  failures := by rw [second.failures, first.failures, missed_append, List.length_append, Nat.add_assoc]
  pushed := by rw [second.pushed, first.pushed, offered_append, List.length_append, Nat.add_assoc]
  taken := by rw [second.taken, first.taken, delivered_append, List.length_append, Nat.add_assoc]
  stopped := second.stopped

/-- Nothing happened to the frames. -/
theorem still {r' : Run σ} (hinHand : r'.inHand = r.inHand) (hpending : r'.queue.pending = r.queue.pending)
    (hframes : r'.frames = r.frames) (hfailures : r'.failures = r.failures)
    (hstats : r'.queue.stats = r.queue.stats) (hstopped : r'.queue.stopped = false) : r.Flows [] r' where
  offered := by rw [hinHand]; exact List.append_nil _
  delivered := by rw [hpending]; exact (List.append_nil _).symm ▸ .refl _
  frames := hframes
  failures := hfailures
  pushed := by rw [hstats]; rfl
  taken := by rw [hstats]; rfl
  stopped := hstopped

theorem of_moves {event : Option Event} {change : Option Change} {next : Run σ} (hopen : r.queue.stopped = false)
    (hmoves : r.Moves source event change next) : r.Flows event.toList next := by
  cases hmoves with
  | takesUp hphase | goesOn hphase | changes hphase | isRefused hphase | keeps hphase =>
    exact still (by simp [inHand, hphase]) rfl rfl rfl rfl hopen
  | fetches hphase _ hqueue =>
    cases hqueue
    exact still (by simp [inHand, hphase]) rfl rfl rfl rfl hopen
  | withdraws hphase =>
    have hinHand : r.inHand = none := by simp [inHand, hphase]
    exact
      { offered := by rw [hinHand]; rfl
        delivered := List.nil_sublist _
        frames := rfl
        failures := rfl
        pushed := rfl
        taken := rfl
        stopped := hopen }
  | copies hphase | misses hphase =>
    have hinHand : r.inHand = none := by simp [inHand, hphase]
    exact
      { offered := by rw [hinHand]; rfl
        delivered := (List.append_nil _).symm ▸ .refl _
        frames := rfl
        failures := rfl
        pushed := rfl
        taken := rfl
        stopped := hopen }
  | @offers frame displaced queue hphase hpush =>
    have hinHand : r.inHand = some frame := by simp [inHand, hphase]
    rw [push_of_open hopen] at hpush
    cases hpush
    exact
      { offered := by rw [hinHand]; rfl
        delivered := List.sublist_append_right _ _
        frames := rfl
        failures := rfl
        pushed := rfl
        taken := rfl
        stopped := hopen }

theorem look (hopen : r.queue.stopped = false) (timeUp : Bool) :
    r.Flows ((r.queue.act (.look timeUp)).1.delivered?.map Event.delivered).toList (r.queued (.look timeUp)) := by
  obtain ⟨hdelivered, hnext⟩ := look_of_open hopen timeUp
  rw [hdelivered, Run.queued, hnext]
  cases hpending : r.queue.pending with
  | none => exact still rfl hpending.symm rfl rfl rfl hopen
  | some frame =>
    exact
      { offered := List.append_nil _
        delivered := by rw [hpending]; exact .refl _
        frames := rfl
        failures := rfl
        pushed := rfl
        taken := rfl
        stopped := hopen }

theorem refl (hopen : r.queue.stopped = false) : r.Flows [] r := still rfl rfl rfl rfl rfl hopen

theorem act {c : Capture σ} (hrun : c.run = some r) (hopen : r.queue.stopped = false) (a : Act) :
    r.Flows (c.event? source a).toList (r.act source a) := by
  cases a with
  | loop =>
    rw [event?, hrun]
    exact of_moves hopen (r.moves source)
  | setGeometry desktop size =>
    rw [Run.act]
    split
    · exact refl hopen
    · exact still rfl rfl rfl rfl rfl hopen
  | look timeUp =>
    rw [event?, hrun]
    exact look hopen timeUp
  | recycle frame =>
    rw [Run.act, Run.queued, recycle_of_open hopen]
    exact still rfl rfl rfl rfl rfl hopen

/-- Where nothing waits and nothing is in hand, what consumers get from then on is copied from then on. -/
theorem delivered_sublist {r' : Run σ} {h : List Event} (hflows : r.Flows h r') (hpending : r.queue.pending = none)
    (hinHand : r.inHand = none) : (Capture.delivered h).Sublist (copied h) := by
  have hdelivered := hflows.delivered
  have hoffered := hflows.offered
  rw [hpending] at hdelivered
  rw [hinHand] at hoffered
  have hsome : (Capture.delivered h).Sublist (Capture.offered h) := (List.sublist_append_left _ _).trans hdelivered
  rw [show copied h = Capture.offered h ++ r'.inHand.toList from hoffered]
  exact hsome.trans (List.sublist_append_left _ _)

end Flows

/-- When a change is complete, nothing waits and nothing is in hand. -/
theorem Moves.emptied {change : Option Change} {next : Run σ} (hmoves : r.Moves source (some .changed) change next) :
    next.queue.pending = none ∧ next.inHand = none := by
  cases hmoves with
  | withdraws => exact ⟨rfl, rfl⟩

/-! ### The pace of the loop -/

/-- How many actions the loop can be beyond the last picture that it tried to copy. -/
def sinceCopy (r : Run σ) : Nat :=
  match r.phase with
  | .grabbed _ => 0
  | .idle => 1
  | .changing _ => 2
  | .changed => 3
  | .settled => 4
  | .ready _ => 5

theorem sinceCopy_le (r : Run σ) : r.sinceCopy ≤ 5 := by
  unfold sinceCopy
  split <;> decide

/-- The actions that the loop can have done. -/
def paces (r : Run σ) : Nat := 6 * (r.frames + r.failures) + r.sinceCopy

theorem Moves.paces {event : Option Event} {change : Option Change} {next : Run σ}
    (hmoves : r.Moves source event change next) : r.paces + 1 ≤ next.paces := by
  unfold Run.paces sinceCopy
  cases hmoves with
  | takesUp hphase | goesOn hphase | changes hphase | isRefused hphase | withdraws hphase | keeps hphase | fetches hphase
  | copies hphase | misses hphase | offers hphase =>
    simp only [hphase]
    omega

theorem paces_act (source : CaptureSource σ) (r : Run σ) (a : Act) :
    r.paces + (if a.isLoop then 1 else 0) ≤ (r.act source a).paces := by
  cases a with
  | loop => exact (r.moves source).paces
  | setGeometry desktop size =>
    change r.paces ≤ _
    rw [Run.act]
    split <;> exact Nat.le_refl _
  | look timeUp => exact Nat.le_refl _
  | recycle frame => exact Nat.le_refl _

end Run

/-! ### One capture -/

variable {c started : Capture σ} {r : Run σ}

/-- In the course of some acts the frames flow, the geometry of what waits stays right, and the loop goes on. -/
theorem flows_course (hsource : source.Steady) (hrun : c.run = some r) (hopen : r.queue.stopped = false)
    (hfresh : r.Fresh source) (acts : List Act) :
    ∃ later, (c.course source acts).run = some later ∧ r.Flows (c.history source acts) later ∧
      later.Fresh source ∧ r.paces + acts.countP Act.isLoop ≤ later.paces := by
  induction acts generalizing c r with
  | nil => exact ⟨r, hrun, .refl hopen, hfresh, Nat.le_refl _⟩
  | cons a acts ih =>
    have hflows : r.Flows (c.event? source a).toList (r.act source a) := .act hrun hopen a
    have hpaces := Run.paces_act source r a
    obtain ⟨later, hlater, hmore, hfresh, hmorePaces⟩ :=
      ih (run_act source hrun a) hflows.stopped (hfresh.act hsource hopen a)
    refine ⟨later, hlater, hflows.trans hmore, hfresh, ?_⟩
    rw [List.countP_cons]
    omega

theorem emptied_of_changed (hrun : c.run = some r) (hopen : r.queue.stopped = false) {a : Act}
    (hevent : c.event? source a = some .changed) :
    (r.act source a).queue.pending = none ∧ (r.act source a).inHand = none := by
  cases a with
  | loop =>
    rw [event?, hrun, Option.bind_some] at hevent
    have hmoves := r.moves source
    rw [hevent] at hmoves
    exact hmoves.emptied
  | look timeUp =>
    rw [event?, hrun, Option.bind_some, (look_of_open hopen timeUp).1] at hevent
    cases hpending : r.queue.pending with
    | none => rw [hpending] at hevent; cases hevent
    | some frame => rw [hpending] at hevent; cases hevent
  | setGeometry desktop size => cases hevent
  | recycle frame => cases hevent

/-- What consumers get after a change is complete was copied after it. -/
theorem delivered_sublist_copied (hsource : source.Steady) (hrun : c.run = some r) (hopen : r.queue.stopped = false)
    (hfresh : r.Fresh source) {acts : List Act} {before after : List Event}
    (hhistory : c.history source acts = before ++ .changed :: after) : (delivered after).Sublist (copied after) := by
  induction acts generalizing c r before with
  | nil => cases before <;> cases hhistory
  | cons a acts ih =>
    have hnext := run_act source hrun a
    have hflows : r.Flows (c.event? source a).toList (r.act source a) := .act hrun hopen a
    have hfreshNext := hfresh.act hsource hopen a
    rw [history] at hhistory
    cases hevent : c.event? source a with
    | none =>
      rw [hevent] at hhistory
      exact ih hnext hflows.stopped hfreshNext hhistory
    | some e =>
      rw [hevent, Option.toList_some, List.singleton_append] at hhistory
      cases before with
      | cons first before =>
        obtain ⟨-, hrest⟩ := List.cons.inj hhistory
        exact ih hnext hflows.stopped hfreshNext hrest
      | nil =>
        obtain ⟨rfl, rfl⟩ := List.cons.inj hhistory
        obtain ⟨hpending, hinHand⟩ := emptied_of_changed hrun hopen hevent
        obtain ⟨later, -, hmore, -⟩ := flows_course hsource hnext hflows.stopped hfreshNext acts
        exact hmore.delivered_sublist hpending hinHand

variable {openSource : Size → Except CaptureError σ} {desktop first wanted : Size}

/-- **No frame of an old geometry is delivered after a change.** In the course of any acts after the start, what waits
in the queue has the geometry of the source, except between a change of this geometry and the withdrawal of what
waits; so has what a consumer gets who looks now. The frames that consumers got since a change was complete are
some of those that were copied since, in order. Every picture that is copied is offered to the queue, once and before
the next is copied, and counts as a frame; one that cannot be copied counts as a failure, and nothing is offered for
it. Neither of the two ends the loop: of any six further actions of the loop at least one tries to copy a picture. -/
theorem delivers_fresh_frames (hsource : source.Steady)
    (hstart : c.start source openSource desktop wanted = .ok (first, started)) (acts : List Act) :
    let later := started.course source acts
    let history := started.history source acts
    ∃ r, later.run = some r ∧
      (r.phase ≠ .changed →
        (∀ frame ∈ r.queue.pending, frame.size = source.geometry r.source) ∧
          ∀ timeUp frame, later.event? source (.look timeUp) = some (.delivered frame) →
            frame.size = source.geometry r.source) ∧
      (∀ before after, history = before ++ .changed :: after → (delivered after).Sublist (copied after)) ∧
      copied history = offered history ++ r.inHand.toList ∧
      r.queue.stats.pushed = (offered history).length ∧
      r.queue.stats.delivered = (delivered history).length ∧
      r.frames = (copied history).length ∧
      r.failures = (missed history).length ∧
      ∀ more : List Act, 6 ≤ more.countP Act.isLoop →
        ∃ r', (later.course source more).run = some r' ∧ r.frames + r.failures < r'.frames + r'.failures := by
  intro later history
  obtain ⟨state, -, hrun⟩ := start_eq_ok hstart
  have hfresh : Run.Fresh source { source := state, geometry := first } := .initial state first
  obtain ⟨r, hlater, hflows, hfresh', -⟩ := flows_course hsource hrun rfl hfresh acts
  refine ⟨r, hlater, fun hphase => ⟨hfresh'.waiting hphase, fun timeUp frame hevent => ?_⟩, fun before after => ?_,
    hflows.offered, ?_, ?_, ?_, ?_, fun more hmore => ?_⟩
  · rw [event?, hlater, Option.bind_some, (look_of_open hflows.stopped timeUp).1, Option.map_eq_some_iff] at hevent
    obtain ⟨taken, hpending, htaken⟩ := hevent
    cases htaken
    exact hfresh'.waiting hphase frame hpending
  · exact delivered_sublist_copied hsource hrun rfl hfresh
  · rw [hflows.pushed]
    exact Nat.zero_add _
  · rw [hflows.taken]
    exact Nat.zero_add _
  · rw [hflows.frames]
    exact Nat.zero_add _
  · rw [hflows.failures]
    exact Nat.zero_add _
  · obtain ⟨r', hrun', -, -, hpaces⟩ := flows_course hsource hlater hflows.stopped hfresh' more
    refine ⟨r', hrun', ?_⟩
    have hsince := r'.sinceCopy_le
    unfold Run.paces at hpaces
    omega

/-- A picture of two pixels. -/
def bothPixels : Frame := ⟨2, 1, 8, 0, ⟨#[1, 2, 3, 255, 4, 5, 6, 255]⟩⟩

/-- The left one of them. -/
def leftPixel : Frame := ⟨1, 1, 4, 0, ⟨#[1, 2, 3, 255]⟩⟩

/-- The capture of two pixels. -/
def twoPixels : Capture Canvas where
  framesPerSecond := 30
  run := some { source := { picture := bothPixels, captured := ⟨2, 1⟩ }, geometry := ⟨2, 1⟩ }

/-- A frame of both pixels waits, then the geometry is cut down to one pixel, and the next frame waits. -/
def cutDown : List Act :=
  [.loop, .loop, .loop, .loop, .setGeometry ⟨2, 1⟩ ⟨1, 1⟩, .loop, .loop, .loop, .loop, .loop, .loop]

/-- What waits in the end has one pixel. -/
theorem delivers_fresh_frames_cut_down :
    let source := Canvas.source (.below 64)
    source.Steady ∧
      Capture.start ⟨30, none⟩ source (fun size => .ok { picture := bothPixels, captured := size }) ⟨2, 1⟩ ⟨2, 1⟩ =
        .ok (⟨2, 1⟩, twoPixels) ∧
      twoPixels.history source cutDown =
        [.copied bothPixels, .offered bothPixels, .changed, .copied leftPixel, .offered leftPixel] ∧
      ∃ r, (twoPixels.course source cutDown).run = some r ∧ r.phase ≠ .changed ∧ r.queue.pending = some leftPixel ∧
        leftPixel.size = source.geometry r.source ∧ r.frames = 2 := by
  have hsource := Canvas.steady_source (.below 64)
  have hstart : Capture.start ⟨30, none⟩ (Canvas.source (.below 64))
      (fun size => .ok { picture := bothPixels, captured := size }) ⟨2, 1⟩ ⟨2, 1⟩ = .ok (⟨2, 1⟩, twoPixels) := rfl
  have hhistory : twoPixels.history (Canvas.source (.below 64)) cutDown =
      [.copied bothPixels, .offered bothPixels, .changed, .copied leftPixel, .offered leftPixel] := by decide +kernel
  have hend : ((twoPixels.course (Canvas.source (.below 64)) cutDown).run.map fun r => (r.phase, r.queue.pending)) =
      some (.idle, some leftPixel) := by decide +kernel
  obtain ⟨r, hrun, hfresh, -, -, -, -, hframes, -⟩ := delivers_fresh_frames hsource hstart cutDown
  rw [hrun, Option.map_some, Option.some_inj, Prod.mk.injEq] at hend
  obtain ⟨hphase, hpending⟩ := hend
  have hnot : r.phase ≠ .changed := by rw [hphase]; nofun
  refine ⟨hsource, hstart, hhistory, r, hrun, hnot, hpending, (hfresh hnot).1 leftPixel hpending, ?_⟩
  rw [hframes, hhistory]
  rfl

end Capture

end RemoteDesktop
