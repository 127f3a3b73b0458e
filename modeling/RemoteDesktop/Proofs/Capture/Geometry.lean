import RemoteDesktop.Capture.Canvas
import RemoteDesktop.Display.Screen
import RemoteDesktop.Proofs.Bytes
import RemoteDesktop.Proofs.Capture.Step
import RemoteDesktop.Session.Pipeline

/-!
# The geometry that a capture reports

A capture reports the geometry it was asked for last: the one that is pending, or else the one that is being
applied, or else the one that was tried last. Its source has the geometry with which it answered the last change
(`Capture.Run.Follows`). The two are the same when nothing is pending or being applied and the last change was
taken as it was asked for (`reports_what_is_captured`). When the source refused it, they differ, and asking for the
same geometry once more does not help: it is the reported one, so nothing becomes pending (`refused_change_is_reported`).

Main statement: `Capture.reports_what_is_captured`.
-/

namespace RemoteDesktop

/-! ### Sources -/

theorem Canvas.faithful_source (memory : Memory) : (Canvas.source memory).Faithful where
  changed size canvas used h := by
    cases hfixed : canvas.fixed <;> simp_all [Canvas.source]
  unchanged size canvas e h := by
    cases hfixed : canvas.fixed <;> simp_all [Canvas.source]
  copied frame canvas := by
    simp only [Canvas.source]
    split
    · rfl
    · split <;> rfl

theorem Screen.faithful_source (memory : Memory) (timestamp : Nat) : (Screen.source memory timestamp).Faithful where
  changed size screen used h := by
    simp only [Screen.source] at h ⊢
    split at h
    · cases h
    · exact Except.ok.inj h
  unchanged size screen e h := by
    simp only [Screen.source] at h ⊢
    split at h
    · rfl
    · cases h
  copied frame screen := by
    simp only [Screen.source]
    split
    · rfl
    · split <;> rfl

/-! ### One action of the loop -/

namespace Capture

variable {σ : Type} {source : CaptureSource σ} {first size : Size} {last : Option Change}

namespace Run

variable {r : Run σ}

/-- The geometry that was asked for last: pending, taken up, or tried. -/
def asked (last : Option Change) (r : Run σ) : Option Size := r.pending.or (r.applying.or (last.map (·.asked)))

namespace Moves

variable {next : Run σ} {event : Option Event} {change : Option Change}

theorem geometry_eq (h : r.Moves source event change next) : next.geometry = r.geometry := by cases h <;> rfl

/-- The loop passes a request on, from pending to taken up to tried, and drops none. -/
theorem asked_eq (last : Option Change) (h : r.Moves source event change next) :
    next.asked (change.or last) = r.asked last := by
  unfold asked applying
  cases h with
  | takesUp hphase hpending | goesOn hphase hpending => simp [hphase, hpending]
  | changes hphase | isRefused hphase | withdraws hphase | keeps hphase | fetches hphase | copies hphase | misses hphase
  | offers hphase => simp [hphase]

/-- Only a change that succeeds gives the source another geometry. -/
theorem geometry_source (hsource : source.Faithful) (h : r.Moves source event change next) :
    source.geometry next.source = (change.bind (·.answer.toOption)).getD (source.geometry r.source) := by
  cases h with
  | @changes size used state hphase hanswer =>
    have hchanged := hsource.changed size r.source used
    rw [hanswer] at hchanged
    exact hchanged rfl
  | @isRefused size e state hphase hanswer =>
    have hunchanged := hsource.unchanged size r.source e
    rw [hanswer] at hunchanged
    exact hunchanged rfl
  | @copies frame copied state hphase hgrab | @misses frame copied cause state hphase hgrab =>
    have hcopied := hsource.copied frame r.source
    rwa [hgrab] at hcopied
  | takesUp | goesOn | withdraws | keeps | fetches | offers => rfl

end Moves

/-! ### One run -/

/-- How a run stands to the geometry it began with and to the change that was tried last, if any was. -/
structure Follows (source : CaptureSource σ) (first : Size) (last : Option Change) (r : Run σ) : Prop where
  reported : r.geometry = (r.asked last).getD first
  untouched : last = none → source.geometry r.source = first
  answered : ∀ change ∈ last, ∀ used, change.answer = .ok used → source.geometry r.source = used

namespace Follows

theorem initial (state : σ) :
    Follows source (source.geometry state) none { source := state, geometry := source.geometry state } where
  reported := rfl
  untouched _ := rfl
  answered := nofun

theorem step (h : Follows source first last r) (hsource : source.Faithful) :
    Follows source first ((r.nextChange source).or last) (r.step source) where
  reported := by rw [(r.moves source).geometry_eq, (r.moves source).asked_eq, h.reported]
  untouched hlast := by
    obtain ⟨hnext, hlast⟩ := Option.or_eq_none_iff.1 hlast
    rw [(r.moves source).geometry_source hsource, hnext]
    exact h.untouched hlast
  answered change hchange used hused := by
    rw [(r.moves source).geometry_source hsource]
    cases hnext : r.nextChange source with
    | none =>
      rw [hnext] at hchange
      exact h.answered change hchange used hused
    | some next =>
      rw [hnext] at hchange
      obtain rfl := Option.some_inj.1 hchange
      rw [Option.bind_some, hused]
      rfl

/-- Nobody who acts on the queue changes the geometry. -/
theorem queued (h : Follows source first last r) (action : FrameQueue.Action Frame) :
    Follows source first last (r.queued action) where
  reported := h.reported
  untouched := h.untouched
  answered := h.answered

/-- Another geometry is noted. -/
theorem noted (h : Follows source first last r) (size : Size) :
    Follows source first last { r with pending := some size, geometry := size } where
  reported := rfl
  untouched := h.untouched
  answered := h.answered

/-- At rest the reported geometry is that of the source, if the last change was taken. -/
theorem geometry_eq (h : Follows source first last r) (hrest : r.AtRest) (htaken : ∀ change ∈ last, change.Taken) :
    r.geometry = source.geometry r.source := by
  rw [h.reported, asked, hrest.1, hrest.2]
  cases last with
  | none => exact (h.untouched rfl).symm
  | some change => exact (h.answered change rfl change.asked (htaken change rfl)).symm

/-- A reported geometry that is not that of the source is pending or being applied, or the source did not take it. -/
theorem underway (h : Follows source first last r) (hdiffers : r.geometry ≠ source.geometry r.source) :
    r.pending = some r.geometry ∨ r.applying = some r.geometry ∨
      ∃ change ∈ last, change.asked = r.geometry ∧ ¬ change.Taken := by
  have hreported := h.reported
  rw [asked] at hreported
  cases hpending : r.pending with
  | some size =>
    rw [hpending] at hreported
    exact .inl (congrArg some hreported.symm)
  | none =>
    cases happlying : r.applying with
    | some size =>
      rw [hpending, happlying] at hreported
      exact .inr (.inl (congrArg some hreported.symm))
    | none =>
      by_cases htaken : ∀ change ∈ last, change.Taken
      · exact absurd (h.geometry_eq ⟨hpending, happlying⟩ htaken) hdiffers
      · simp only [not_forall] at htaken
        obtain ⟨change, hchange, hrefused⟩ := htaken
        rw [hpending, happlying, Option.mem_def.1 hchange] at hreported
        exact .inr (.inr ⟨change, hchange, hreported.symm, hrefused⟩)

end Follows

end Run

/-! ### One capture -/

variable {c : Capture σ} {r : Run σ} {desktop : Size}

/-- A request that is not empty is noted, unless it is for the reported geometry. -/
theorem setGeometry_eq (desktop : Size) (hrun : c.run = some r) (hsize : isEmptySize size = false) :
    c.setGeometry desktop size = .ok (desktop.clampTo size,
      if desktop.clampTo size = r.geometry then c
      else
        { c with run := some { r with pending := some (desktop.clampTo size), geometry := desktop.clampTo size } }) := by
  unfold setGeometry
  rw [hsize, hrun]
  simp only [Bool.false_eq_true, if_false]
  split <;> rfl

theorem setGeometry_of_isEmptySize (hsize : isEmptySize size = true) :
    c.setGeometry desktop size = .error (.invalidGeometry size) := by
  unfold setGeometry
  rw [hsize]
  rfl

/-- The answer to a request is the geometry that is reported from then on. -/
theorem geometry_of_setGeometry {used : Size} {next : Capture σ} (h : c.setGeometry desktop size = .ok (used, next)) :
    next.geometry = some used := by
  cases hsize : isEmptySize size with
  | true =>
    rw [setGeometry_of_isEmptySize hsize] at h
    cases h
  | false =>
    cases hrun : c.run with
    | none =>
      unfold setGeometry at h
      rw [hsize, hrun] at h
      cases h
    | some r =>
      rw [setGeometry_eq desktop hrun hsize] at h
      cases h
      rw [geometry]
      split
      next hsame => rw [hrun, hsame]; rfl
      next => rfl

/-- What an act does to a run. -/
def Run.act (source : CaptureSource σ) (r : Run σ) : Act → Run σ
  | .loop => r.step source
  | .setGeometry desktop size =>
    if isEmptySize size = true ∨ desktop.clampTo size = r.geometry then r
    else { r with pending := some (desktop.clampTo size), geometry := desktop.clampTo size }
  | .look timeUp => r.queued (.look timeUp)
  | .recycle frame => r.queued (.recycle frame)

theorem run_act (source : CaptureSource σ) (hrun : c.run = some r) (a : Act) :
    (c.act source a).run = some (r.act source a) := by
  cases a with
  | loop => simp only [act, hrun, Run.act, Option.map_some]
  | setGeometry desktop size =>
    cases hsize : isEmptySize size with
    | true => simp only [act, setGeometry_of_isEmptySize hsize, Run.act, hsize, true_or, if_true, hrun]
    | false =>
      simp only [act, setGeometry_eq desktop hrun hsize, Run.act, hsize, Bool.false_eq_true, false_or]
      split
      · exact hrun
      · rfl
  | look timeUp => simp only [act, hrun, Run.act, Option.map_some]
  | recycle frame => simp only [act, hrun, Run.act, Option.map_some]

theorem follows_act (hsource : source.Faithful) (hrun : c.run = some r) (h : r.Follows source first last) (a : Act) :
    (r.act source a).Follows source first ((c.change? source a).or last) := by
  cases a with
  | loop =>
    rw [change?, hrun]
    exact h.step hsource
  | setGeometry desktop size =>
    rw [Run.act]
    split
    · exact h
    · exact h.noted _
  | look timeUp => exact h.queued _
  | recycle frame => exact h.queued _

theorem follows_course (hsource : source.Faithful) (hrun : c.run = some r) (h : r.Follows source first last)
    (acts : List Act) :
    ∃ later, (c.course source acts).run = some later ∧
      later.Follows source first ((c.changes source acts).getLast?.or last) := by
  induction acts generalizing c r last with
  | nil => exact ⟨r, hrun, h⟩
  | cons a acts ih =>
    obtain ⟨later, hlater, hfollows⟩ := ih (run_act source hrun a) (follows_act hsource hrun h a)
    refine ⟨later, hlater, ?_⟩
    rw [changes, List.getLast?_append, Option.or_assoc]
    cases hchange : c.change? source a with
    | none => rwa [hchange] at hfollows
    | some change => rwa [hchange] at hfollows

/-- A capture that has started has the geometry of its source, and nothing has been done yet. -/
theorem start_eq_ok {openSource : Size → Except CaptureError σ} {started : Capture σ}
    (hstart : c.start source openSource desktop size = .ok (first, started)) :
    ∃ state, source.geometry state = first ∧ started.run = some { source := state, geometry := first } := by
  unfold start at hstart
  split at hstart
  · cases hstart
  · split at hstart
    · cases hstart
    · obtain ⟨state, -, hstate⟩ := bind_eq_ok_iff.1 hstart
      cases hstate
      exact ⟨state, rfl, rfl⟩

end Capture

/-! ### Sessions -/

/-- After a resize all parts of a session have one size, the one that the capture reports. -/
theorem Pipeline.agrees_resize {σ γ : Type} {p resized : Pipeline σ γ} {desktop size used : Size}
    (h : p.resize desktop size = .ok (used, resized)) : resized.Agrees := by
  unfold resize at h
  cases hset : p.capture.setGeometry desktop size with
  | error e =>
    rw [hset] at h
    cases h
  | ok answer =>
    obtain ⟨geometry, capture⟩ := answer
    rw [hset] at h
    cases h
    exact ⟨rfl, Capture.geometry_of_setGeometry hset, rfl⟩

/-- The encoder of a session whose parts agree expects frames of the reported geometry. -/
theorem Pipeline.Agrees.encoderSize {σ γ : Type} {p : Pipeline σ γ} (h : p.Agrees) :
    p.capture.geometry = some p.encoder.options.size := by
  rw [h.1]
  exact h.2.1

namespace Capture

variable {σ γ : Type} {source : CaptureSource σ} {c started : Capture σ} {openSource : Size → Except CaptureError σ}
  {desktop first wanted : Size}

/-- **A capture reports the geometry that its source has, unless the source did not take the last change.** In the
course of any acts after the start, the reported geometry is the one asked for last; when no change is pending or
being applied, and the last change that was tried was taken as it was asked for, it is the geometry of the source,
and the encoder of a session whose parts agree expects frames of this geometry. A request that is not empty is
answered with the geometry that the desktop has room for, and this is reported from then on; if the source has
another one, a change to it is pending or being applied, or it was the last one tried and the source did not take
it. -/
theorem reports_what_is_captured (hsource : source.Faithful)
    (hstart : c.start source openSource desktop wanted = .ok (first, started)) (acts : List Act) :
    let later := started.course source acts
    let last := (started.changes source acts).getLast?
    ∃ r, later.run = some r ∧
      later.geometry = some ((r.asked last).getD first) ∧
      (r.AtRest → (∀ change ∈ last, change.Taken) →
        later.geometry = some (source.geometry r.source) ∧
          ∀ p : Pipeline σ γ, p.capture = later → p.Agrees → p.encoder.options.size = source.geometry r.source) ∧
      ∀ desktop size, isEmptySize size = false →
        ∃ next r', later.setGeometry desktop size = .ok (desktop.clampTo size, next) ∧ next.run = some r' ∧
          r'.geometry = desktop.clampTo size ∧
          (desktop.clampTo size ≠ source.geometry r.source →
            r'.pending = some (desktop.clampTo size) ∨ r.applying = some (desktop.clampTo size) ∨
              ∃ change ∈ last, change.asked = desktop.clampTo size ∧ ¬ change.Taken) := by
  intro later last
  obtain ⟨state, rfl, hrun₀⟩ := start_eq_ok hstart
  obtain ⟨r, hrun, hfollows⟩ := follows_course hsource hrun₀ (.initial state) acts
  rw [Option.or_none] at hfollows
  have hgeometry : later.geometry = some r.geometry := by rw [geometry, hrun]; rfl
  refine ⟨r, hrun, ?_, fun hrest htaken => ?_, fun desktop size hsize => ?_⟩
  · rw [hgeometry, hfollows.reported]
  · rw [← hfollows.geometry_eq hrest htaken]
    refine ⟨hgeometry, fun p hp hagrees => ?_⟩
    have hencoder := hagrees.encoderSize
    rw [hp, hgeometry] at hencoder
    exact (Option.some_inj.1 hencoder).symm
  · by_cases hsame : desktop.clampTo size = r.geometry
    · refine ⟨later, r, ?_, hrun, hsame.symm, fun hdiffers => ?_⟩
      · rw [setGeometry_eq desktop hrun hsize, if_pos hsame]
      · rw [hsame] at hdiffers ⊢
        exact hfollows.underway hdiffers
    · have hset := setGeometry_eq desktop hrun hsize
      rw [if_neg hsame] at hset
      exact ⟨_, _, hset, rfl, rfl, fun _ => .inl rfl⟩

/-- A desktop of 64 to 32 pixels, of which a part of the given size is captured. -/
def smallCanvas (fixed : Bool) (captured : Size) : Canvas := { picture := Frame.empty 0, captured, fixed }

/-- The capture of nine to nine pixels of a small canvas. -/
def smallCapture (fixed : Bool) : Capture Canvas where
  framesPerSecond := 120
  run := some { source := smallCanvas fixed ⟨9, 9⟩, geometry := ⟨9, 9⟩ }

/-- A change that is taken: once it has been tried, the capture reports what it captures. -/
theorem reports_what_is_captured_taken :
    let source := Canvas.source (.below 0)
    let started := smallCapture false
    let acts := [.setGeometry ⟨64, 32⟩ ⟨80, 5⟩, .loop, .loop]
    source.Faithful ∧
      Capture.start ⟨120, none⟩ source (fun size => .ok (smallCanvas false size)) ⟨64, 32⟩ ⟨9, 9⟩ =
        .ok (⟨9, 9⟩, started) ∧
      started.changes source acts = [⟨⟨64, 5⟩, .ok ⟨64, 5⟩⟩] ∧
      (started.course source acts).geometry = some ⟨64, 5⟩ ∧
      ∃ r, (started.course source acts).run = some r ∧ r.AtRest ∧ source.geometry r.source = ⟨64, 5⟩ := by
  have hsource := Canvas.faithful_source (.below 0)
  have hstart : Capture.start ⟨120, none⟩ (Canvas.source (.below 0)) (fun size => .ok (smallCanvas false size))
      ⟨64, 32⟩ ⟨9, 9⟩ = .ok (⟨9, 9⟩, smallCapture false) := rfl
  obtain ⟨r, hrun, -, hrest, -⟩ := reports_what_is_captured (γ := Nat) hsource hstart
    [.setGeometry ⟨64, 32⟩ ⟨80, 5⟩, .loop, .loop]
  refine ⟨hsource, hstart, rfl, rfl, r, hrun, ?_, ?_⟩
  · cases hrun
    exact ⟨rfl, rfl⟩
  · have htaken := hrest (by cases hrun; exact ⟨rfl, rfl⟩) (by rintro change ⟨⟩; rfl)
    exact (Option.some_inj.1 htaken.1).symm

/-- **A change that the source refuses is reported all the same.** Nothing is pending or being applied any more, and
the capture reports five to five pixels, but its source still has nine to nine. Asking for five to five pixels again
makes nothing pending. -/
theorem refused_change_is_reported :
    let source := Canvas.source (.below 0)
    let started := smallCapture true
    let later := started.course source [.setGeometry ⟨64, 32⟩ ⟨5, 5⟩, .loop, .loop]
    source.Faithful ∧
      Capture.start ⟨120, none⟩ source (fun size => .ok (smallCanvas true size)) ⟨64, 32⟩ ⟨9, 9⟩ =
        .ok (⟨9, 9⟩, started) ∧
      later.geometry = some ⟨5, 5⟩ ∧
      later.setGeometry ⟨64, 32⟩ ⟨5, 5⟩ = .ok (⟨5, 5⟩, later) ∧
      ∃ r, later.run = some r ∧ r.AtRest ∧ source.geometry r.source = ⟨9, 9⟩ :=
  ⟨Canvas.faithful_source _, rfl, rfl, rfl, _, rfl, ⟨rfl, rfl⟩, rfl⟩

end Capture

end RemoteDesktop
