import RemoteDesktop.Capture.History

/-!
# The actions of the capture loop

All that one action of the loop can do is said here once (`Capture.Run.Moves`), with what it does to frames and what
it tries to change. What an action keeps is shown case by case over this list.
-/

namespace RemoteDesktop.Capture.Run

variable {σ : Type}

/-- The runs that one action of the loop leads to, each with what the action does to frames and tries to change. -/
inductive Moves (source : CaptureSource σ) (r : Run σ) : Option Event → Option Change → Run σ → Prop where
  | takesUp {size : Size} : r.phase = .idle → r.pending = some size →
    Moves source r none none { r with pending := none, phase := .changing size }
  | goesOn : r.phase = .idle → r.pending = none → Moves source r none none { r with phase := .settled }
  | changes {size used : Size} {state : σ} : r.phase = .changing size →
    source.reconfigure size r.source = (.ok used, state) →
    Moves source r none (some ⟨size, .ok used⟩) { r with source := state, phase := .changed }
  | isRefused {size : Size} {e : CaptureError} {state : σ} : r.phase = .changing size →
    source.reconfigure size r.source = (.error e, state) →
    Moves source r none (some ⟨size, .error e⟩) { r with source := state, phase := .settled }
  | withdraws : r.phase = .changed →
    Moves source r (some .changed) none { r with queue := r.queue.reset, phase := .settled }
  | keeps {frame : Frame} : r.phase = .settled → r.spare = some frame →
    Moves source r none none { r with spare := none, phase := .ready frame }
  | fetches {returned : Option Frame} {queue : FrameQueue Frame} : r.phase = .settled → r.spare = none →
    r.queue.takeRecycled = (returned, queue) →
    Moves source r none none { r with queue, phase := .ready (returned.getD (Frame.empty 0)) }
  | copies {frame copied : Frame} {state : σ} : r.phase = .ready frame →
    source.grab frame r.source = (none, copied, state) →
    Moves source r (some (.copied copied)) none
      { r with source := state, frames := r.frames + 1, phase := .grabbed copied }
  | misses {frame left : Frame} {cause : CaptureError} {state : σ} : r.phase = .ready frame →
    source.grab frame r.source = (some cause, left, state) →
    Moves source r (some (.missed cause)) none
      { r with source := state, failures := r.failures + 1, spare := some left, phase := .idle }
  | offers {frame : Frame} {displaced : Option Frame} {queue : FrameQueue Frame} : r.phase = .grabbed frame →
    r.queue.push frame = (displaced, queue) →
    Moves source r (some (.offered frame)) none { r with queue, spare := displaced, phase := .idle }

theorem moves (source : CaptureSource σ) (r : Run σ) :
    Moves source r (r.nextEvent source) (r.nextChange source) (r.step source) := by
  unfold nextEvent nextChange applying step
  cases hphase : r.phase with
  | idle =>
    simp only
    split
    next size hpending => exact .takesUp hphase hpending
    next hpending => exact .goesOn hphase hpending
  | changing size =>
    simp only [Option.map_some]
    cases hanswer : source.reconfigure size r.source with
    | mk answer state =>
      cases answer with
      | ok used => exact .changes hphase hanswer
      | error e => exact .isRefused hphase hanswer
  | changed => exact .withdraws hphase
  | settled =>
    simp only
    split
    next frame hspare => exact .keeps hphase hspare
    next hspare => exact .fetches hphase hspare rfl
  | ready frame =>
    simp only
    cases hgrab : source.grab frame r.source with
    | mk failure rest =>
      obtain ⟨copied, state⟩ := rest
      cases failure with
      | none => exact .copies hphase hgrab
      | some cause => exact .misses hphase hgrab
  | grabbed frame => exact .offers hphase rfl

end RemoteDesktop.Capture.Run
