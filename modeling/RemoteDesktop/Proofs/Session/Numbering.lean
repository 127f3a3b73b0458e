import Mathlib.Algebra.Ring.Nat
import RemoteDesktop.Proofs.Painting
import RemoteDesktop.Session.Flow

/-!
# Updates are numbered without a gap

What has been encoded and is not written yet is in the channel or with the pump, so the updates of a
viewer form one row: written, in the channel, held (`Flow.row`). An encoded frame adds to its end, under the
number that the encoder has for the next update, and nothing else takes from it or adds to it, except that
a pipeline that is given up takes what it has added with it (`Sound.step`). A pipeline stops when all
of its row is written; so the one after it finds the right number in the settings.

Main statement: `numbering_is_gapless`.
-/

namespace RemoteDesktop

variable {σ : Type}

/-! ### Encoding one frame -/

namespace Encoder

/-- The next update of this encoder is a full one. -/
def Blank (e : Encoder σ) : Prop := ∀ d, e.detector = some d → d.invalidated = true

variable {e after : Encoder σ}

theorem blank_invalidate (e : Encoder σ) : e.invalidate.Blank := by
  intro d hd
  obtain ⟨d', -, rfl⟩ := Option.map_eq_some_iff.1 hd
  rfl

theorem blank_setOptions (options : EncoderOptions) (e : Encoder σ) : (e.setOptions options).Blank := by
  intro d hd
  obtain ⟨d', -, rfl⟩ := Option.map_eq_some_iff.1 hd
  rfl

theorem isRunning_invalidate (e : Encoder σ) : e.invalidate.isRunning = e.isRunning := Option.isSome_map

theorem isRunning_setOptions (options : EncoderOptions) (e : Encoder σ) :
    (e.setOptions options).isRunning = e.isRunning := Option.isSome_map

/-- A frame gives an update under the number that was next, or leaves the number as it is. An encoder of
which a full update is due gives that, or goes on owing it. -/
theorem encode_cases {codec : TileCodec σ} {f : Frame} {result : Except EncoderError (Option Update)}
    (h : e.encode codec f = .ok (result, after)) :
    after.isRunning = e.isRunning ∧
      ((∃ u, result = .ok (some u) ∧ e.isRunning = true ∧ u.sequence = e.nextSequence ∧
          after.nextSequence = e.nextSequence + 1 ∧ (e.Blank → u.kind = .full)) ∨
        (∀ u, result ≠ .ok (some u)) ∧ after.nextSequence = e.nextSequence ∧ (e.Blank → after.Blank)) := by
  cases gives_of_encode h with
  | refusal => exact ⟨rfl, .inr ⟨(fun u hu => nomatch hu), rfl, id⟩⟩
  | nothing hdetector hinspect hregions =>
    refine ⟨by rw [isRunning, isRunning, hdetector]; rfl, .inr ⟨(fun u hu => nomatch hu), rfl, fun hblank => ?_⟩⟩
    rw [inspect_of_invalidated (hblank _ hdetector) hinspect] at hregions
    cases hregions
  | failure reason codecState hdetector =>
    refine ⟨by rw [isRunning, isRunning, hdetector]; rfl, .inr ⟨(fun u hu => nomatch hu), rfl, fun _ => ?_⟩⟩
    rintro _ ⟨⟩
    rfl
  | update codecState _ hdetector hinspect hregions =>
    have hrunning : e.isRunning = true := by rw [isRunning, hdetector, Option.isSome_some]
    refine ⟨hrunning.symm, .inl ⟨_, rfl, hrunning, rfl, rfl, fun hblank => ?_⟩⟩
    rw [inspect_of_invalidated (hblank _ hdetector) hinspect] at hregions
    cases hregions
    rfl

end Encoder

/-- A pipeline begins with the number in its settings, and with a full update to come. -/
theorem Pipeline.start_newEncoder {plan : SessionPlan} {settings : SessionSettings} {codecState : σ} {e : Encoder σ}
    (h : (newEncoder plan settings codecState).start = .ok e) :
    e.isRunning = true ∧ e.nextSequence = settings.nextSequence ∧ e.Blank := by
  cases h
  refine ⟨rfl, rfl, ?_⟩
  rintro _ ⟨⟩
  rfl

namespace Flow

/-! ### The row of updates -/

/-- All updates of a viewer that have been encoded, oldest first. -/
def row (f : Flow σ) : List Update := f.written ++ (f.channel ++ f.pump.held)

/-- How many updates the viewer had received when the running pipeline started. -/
def start (f : Flow σ) : Nat := f.starts.headD 0

/-- A pipeline runs. -/
def Phase.Runs (p : Phase) : Prop := p = .serving ∨ p = .flushing ∨ ∃ settings, p = .offered settings

/-- The pipeline has stopped, and these are the settings for the next one. -/
def Phase.Rests (settings : SessionSettings) (p : Phase) : Prop := p = .paused settings ∨ p = .detached settings

/-- Once the pump has ended and the channel is empty, all of the row is written. -/
theorem row_of_drained {f : Flow σ} (hpump : f.pump = .ended) (hchannel : f.channel = []) : f.row = f.written := by
  rw [row, hpump, hchannel, PumpPlace.held, List.append_nil, List.append_nil]

/-- What is written stands in the row. -/
theorem row_of_written {f : Flow σ} {k : Nat} {u : Update} (hu : f.written[k]? = some u) : f.row[k]? = some u := by
  obtain ⟨hk, -⟩ := List.getElem?_eq_some_iff.1 hu
  rw [row, List.getElem?_append_left hk]
  exact hu

/-- The updates of a row count from `first` on. -/
def Counts (first : UInt64) (row : List Update) : Prop :=
  ∀ i u, row[i]? = some u → u.sequence = first + UInt64.ofNat i

theorem Counts.append {first : UInt64} {row : List Update} (h : Counts first row) {u : Update}
    (hu : u.sequence = first + UInt64.ofNat row.length) : Counts first (row ++ [u]) := by
  intro i v hv
  rcases Nat.lt_trichotomy i row.length with hi | rfl | hi
  · rw [List.getElem?_append_left hi] at hv
    exact h i v hv
  · rw [List.getElem?_append_right (Nat.le_refl _), Nat.sub_self] at hv
    cases hv
    exact hu
  · rw [List.getElem?_eq_none (by rw [List.length_append, List.length_singleton]; omega)] at hv
    cases hv

theorem Counts.of_append {first : UInt64} {row more : List Update} (h : Counts first (row ++ more)) :
    Counts first row := by
  intro i u hu
  obtain ⟨hi, -⟩ := List.getElem?_eq_some_iff.1 hu
  exact h i u (by rw [List.getElem?_append_left hi]; exact hu)

/-- What is true of the updates of a viewer at every moment, if they count from `first` on. -/
structure Sound (first : UInt64) (f : Flow σ) : Prop where
  counts : Counts first f.row
  /-- The encoder has the number that continues the row. -/
  next : f.encoder.isRunning = true → f.encoder.nextSequence = first + UInt64.ofNat f.row.length
  running : f.phase.Runs → f.encoder.isRunning = true
  /-- Where the pipeline has stopped, everything is written, and the settings continue the numbers. -/
  rests : ∀ settings, f.phase.Rests settings → f.pump = .ended ∧ f.channel = [] ∧
    settings.nextSequence = first + UInt64.ofNat f.written.length
  /-- Nothing of a pipeline is written before the other process answers. -/
  offered : ∀ settings, f.phase = .offered settings → f.start = f.written.length ∧
    settings.nextSequence = first + UInt64.ofNat f.written.length
  starts_le : ∀ k ∈ f.starts, k ≤ f.start
  start_le : f.start ≤ f.written.length
  /-- From the start of the pipeline on, the row is what the pipeline has made. -/
  made : f.row.drop f.start = f.made
  /-- An update that comes first after a start is a full one. -/
  full : ∀ k ∈ f.starts, ∀ u, f.row[k]? = some u → u.kind = .full
  /-- A pipeline that has made nothing owes a full update. -/
  blank : f.made = [] → f.encoder.Blank

variable {codec : TileCodec σ} {first : UInt64} {f g : Flow σ}

theorem sound_initial {plan : SessionPlan} {settings : SessionSettings} {codecState : σ} {encoder : Encoder σ}
    (h : (Pipeline.newEncoder plan settings codecState).start = .ok encoder) (capacity : Nat) :
    Sound settings.nextSequence (initial encoder settings capacity) := by
  obtain ⟨hrunning, hnext, hblank⟩ := Pipeline.start_newEncoder h
  refine ⟨?_, fun _ => ?_, fun _ => hrunning, ?_, ?_, ?_, Nat.le_refl _, rfl, ?_, fun _ => hblank⟩
  · intro i u hu
    cases hu
  · rw [initial, hnext]
    exact (UInt64.add_zero _).symm
  · rintro _ (h | h) <;> cases h
  · rintro _ ⟨⟩
  · intro k hk
    rw [List.mem_singleton.1 hk]
    exact Nat.le_refl _
  · intro k _ u hu
    cases hu

namespace Sound

/-- A step that moves updates along the row, and changes nothing else, keeps everything true. -/
theorem move (h : Sound first f) (hrow : g.row = f.row) (hencoder : g.encoder = f.encoder) (hmade : g.made = f.made)
    (hstarts : g.starts = f.starts) (hwritten : f.written.length ≤ g.written.length)
    (hruns : g.phase.Runs → f.phase.Runs)
    (hrests : ∀ settings, g.phase.Rests settings → g.pump = .ended ∧ g.channel = [] ∧
      settings.nextSequence = first + UInt64.ofNat g.written.length)
    (hoffered : ∀ settings, g.phase = .offered settings → g.start = g.written.length ∧
      settings.nextSequence = first + UInt64.ofNat g.written.length) : Sound first g := by
  have hstart : g.start = f.start := by rw [start, start, hstarts]
  refine ⟨?_, ?_, ?_, hrests, hoffered, ?_, ?_, ?_, ?_, ?_⟩
  · rw [hrow]
    exact h.counts
  · rw [hrow, hencoder]
    exact h.next
  · rw [hencoder]
    exact fun hg => h.running (hruns hg)
  · rw [hstarts, hstart]
    exact h.starts_le
  · rw [hstart]
    exact Nat.le_trans h.start_le hwritten
  · rw [hrow, hstart, hmade]
    exact h.made
  · rw [hstarts, hrow]
    exact h.full
  · rw [hmade, hencoder]
    exact h.blank

/-- The pump takes, encodes, passes on or ends where a pipeline runs. -/
theorem not_rests (h : Sound first f) (hpump : f.pump ≠ .ended) (settings : SessionSettings) :
    ¬ f.phase.Rests settings := fun hrests => hpump (h.rests settings hrests).1

/-- The pump goes on, and the row stays. -/
theorem pumps (h : Sound first f) (hpump : f.pump ≠ .ended) {pump : PumpPlace} {channel : List Update}
    (hrow : channel ++ pump.held = f.channel ++ f.pump.held) : Sound first { f with pump, channel } := by
  refine h.move ?_ rfl rfl rfl (Nat.le_refl _) id ?_ h.offered
  · rw [row, row, hrow]
  · exact fun settings hrest => absurd hrest (h.not_rests hpump settings)

/-- The pump has an update that continues the row. -/
theorem adds (h : Sound first f) (hnone : f.pump.held = []) (hrests : ∀ settings, ¬ f.phase.Rests settings)
    {encoder : Encoder σ} {u : Update} (hrunning : encoder.isRunning = f.encoder.isRunning)
    (hold : f.encoder.isRunning = true) (hsequence : u.sequence = f.encoder.nextSequence)
    (hnext : encoder.nextSequence = f.encoder.nextSequence + 1) (hfull : f.encoder.Blank → u.kind = .full) :
    Sound first { f with encoder, pump := .holding u, made := f.made ++ [u] } := by
  have hrow : row { f with encoder, pump := .holding u, made := f.made ++ [u] } = f.row ++ [u] := by
    rw [row, row, hnone, List.append_nil, List.append_assoc]
    rfl
  have hu : u.sequence = first + UInt64.ofNat f.row.length := hsequence.trans (h.next hold)
  have hlength : f.start ≤ f.row.length := by
    have := h.start_le
    rw [row, List.length_append]
    omega
  refine ⟨?_, fun _ => ?_, ?_, fun settings hrest => absurd hrest (hrests settings), h.offered, h.starts_le,
    h.start_le, ?_, ?_, fun hmade => absurd hmade (by simp)⟩
  · rw [hrow]
    exact h.counts.append hu
  · rw [hrow, hnext, h.next hold, List.length_append, List.length_singleton]
    simp [UInt64.ofNat_add, UInt64.add_assoc]
  · exact fun hphase => hrunning.trans (h.running hphase)
  · rw [hrow]
    show (f.row ++ [u]).drop f.start = f.made ++ [u]
    rw [List.drop_append_of_le_length hlength, h.made]
  · intro k hk v hv
    rw [hrow] at hv
    by_cases hlt : k < f.row.length
    · rw [List.getElem?_append_left hlt] at hv
      exact h.full k hk v hv
    · -- the row ends where a pipeline started, so the running one has made nothing
      have hk' : k ≤ f.start := h.starts_le k hk
      have hstart : f.start = f.row.length := by omega
      have hmade : f.made = [] := by rw [← h.made, hstart, List.drop_length]
      rw [List.getElem?_append_right (by omega), show k - f.row.length = 0 by omega] at hv
      cases hv
      exact hfull (h.blank hmade)

/-- The pump has nothing of its frame, and the row stays. -/
theorem skips (h : Sound first f) (hnone : f.pump.held = []) (hrests : ∀ settings, ¬ f.phase.Rests settings)
    {encoder : Encoder σ} {pump : PumpPlace} (hheld : pump.held = [])
    (hrunning : encoder.isRunning = f.encoder.isRunning) (hnext : encoder.nextSequence = f.encoder.nextSequence)
    (hblank : f.encoder.Blank → encoder.Blank) : Sound first { f with encoder, pump } := by
  have hrow : row { f with encoder, pump } = f.row := by rw [row, row, hnone, hheld]
  refine ⟨?_, ?_, ?_, fun settings hrest => absurd hrest (hrests settings), h.offered, h.starts_le, h.start_le,
    ?_, ?_, fun hmade => hblank (h.blank hmade)⟩
  · rw [hrow]
    exact h.counts
  · rw [hrow]
    intro hrun
    rw [hnext]
    exact h.next (hrunning.symm.trans hrun)
  · exact fun hphase => hrunning.trans (h.running hphase)
  · rw [hrow]
    exact h.made
  · rw [hrow]
    exact h.full

theorem encode (h : Sound first f) {frame : Frame} (hpump : f.pump = .busy frame) :
    Sound first (f.encoded codec frame) := by
  have hnone : f.pump.held = [] := by rw [hpump, PumpPlace.held]
  have hrests : ∀ settings, ¬ f.phase.Rests settings := h.not_rests (by rw [hpump]; exact fun h => nomatch h)
  rw [encoded]
  split
  next result encoder hencode =>
    obtain ⟨hrunning, hcases⟩ := Encoder.encode_cases hencode
    rcases hcases with ⟨u, rfl, hold, hsequence, hnext, hfull⟩ | ⟨hskip, hnext, hblank⟩
    · exact h.adds hnone hrests hrunning hold hsequence hnext hfull
    · have hheld : (placeAfter result).held = [] := by
        cases result with
        | ok update =>
          cases update with
          | none => rfl
          | some u => exact absurd rfl (hskip u)
        | error e => cases e <;> rfl
      rw [hheld, List.append_nil]
      exact h.skips hnone hrests hheld hrunning hnext hblank
  next =>
    refine h.move ?_ rfl rfl rfl (Nat.le_refl _) id (fun settings hrest => absurd hrest (hrests settings)) h.offered
    rw [row, row, hnone]
    rfl

/-- An update is written: it moves along the row. -/
theorem write (h : Sound first f) {u : Update} {rest : List Update} (hphase : f.phase = .serving ∨ f.phase = .flushing)
    (hchannel : f.channel = u :: rest) : Sound first { f with channel := rest, written := f.written ++ [u] } := by
  refine h.move ?_ rfl rfl rfl ?_ id (fun settings hrest => ?_) (fun settings ho => ?_)
  · rw [row, row, hchannel, List.append_assoc]
    rfl
  · rw [List.length_append]
    exact Nat.le_add_right _ _
  · rcases hphase with hp | hp <;> rcases hrest with hr | hr <;> exact absurd (hp.symm.trans hr) (fun h => nomatch h)
  · rcases hphase with hp | hp <;> exact absurd (hp.symm.trans ho) (fun h => nomatch h)

/-- The encoder is told something, and keeps its number. -/
theorem recode (h : Sound first f) {encoder : Encoder σ} {settings : SessionSettings}
    (hrunning : encoder.isRunning = f.encoder.isRunning) (hnext : encoder.nextSequence = f.encoder.nextSequence)
    (hblank : encoder.Blank) : Sound first { f with encoder, settings } := by
  refine ⟨h.counts, ?_, ?_, h.rests, h.offered, h.starts_le, h.start_le, h.made, h.full, fun _ => hblank⟩
  · intro hrun
    exact hnext.trans (h.next (hrunning.symm.trans hrun))
  · exact fun hphase => hrunning.trans (h.running hphase)

theorem pause (h : Sound first f) (hphase : f.phase = .flushing) (hpump : f.pump = .ended) (hchannel : f.channel = []) :
    Sound first f.paused := by
  have hrow := row_of_drained hpump hchannel
  have hrunning : f.encoder.isRunning = true := h.running (.inr (.inl hphase))
  have hrests : ∀ settings, f.paused.phase.Rests settings → settings = f.finalSettings := by
    rintro settings (hp | hp)
    · cases hp
      rfl
    · cases hp
  refine ⟨h.counts, (fun hrun => nomatch hrun), ?_, fun settings hrest => ⟨hpump, hchannel, ?_⟩,
    (fun _ ho => nomatch ho), h.starts_le, h.start_le, h.made, h.full, (fun _ d hd => nomatch hd)⟩
  · rintro (hp | hp | ⟨_, hp⟩) <;> cases hp
  · have hnext := h.next hrunning
    rw [hrow] at hnext
    rw [hrests settings hrest]
    exact hnext

/-- A new pipeline starts where the old one stopped. -/
theorem restart (h : Sound first f) {settings : SessionSettings} (hrest : f.phase.Rests settings) {plan : SessionPlan}
    {size : Size} {codecState : σ} {encoder : Encoder σ}
    (hstart : (Pipeline.newEncoder plan (Pipeline.resized settings size) codecState).start = .ok encoder)
    (capacity : Nat) {phase : Phase} (hphase : phase = .serving ∨ phase = .offered settings) :
    Sound first (f.started encoder (Pipeline.resized settings size) capacity phase) := by
  obtain ⟨hrunning, hnext, hblank⟩ := Pipeline.start_newEncoder hstart
  obtain ⟨hpump, hchannel, hsettings⟩ := h.rests settings hrest
  have hold := row_of_drained hpump hchannel
  have hrow : (f.started encoder (Pipeline.resized settings size) capacity phase).row = f.written := by
    rw [row, started, PumpPlace.held, List.append_nil, List.append_nil]
  refine ⟨?_, fun _ => ?_, fun _ => hrunning, ?_, ?_, ?_, Nat.le_refl _, ?_, ?_, fun _ => hblank⟩
  · rw [hrow, ← hold]
    exact h.counts
  · rw [hrow]
    exact hnext.trans hsettings
  · intro settings' hrests
    rcases hphase with rfl | rfl <;> rcases hrests with hp | hp <;> cases hp
  · intro settings' ho
    rcases hphase with rfl | rfl
    · cases ho
    · cases ho
      exact ⟨rfl, hsettings⟩
  · intro k hk
    rcases List.mem_cons.1 hk with rfl | hk
    · exact Nat.le_refl _
    · exact Nat.le_trans (h.starts_le k hk) h.start_le
  · rw [hrow]
    exact List.drop_length
  · intro k hk u hu
    rw [hrow] at hu
    rcases List.mem_cons.1 hk with rfl | hk
    · rw [List.getElem?_eq_none (Nat.le_refl _)] at hu
      cases hu
    · exact h.full k hk u (hold ▸ hu)

/-- A pipeline that was not answered for leaves nothing behind. -/
theorem abort (h : Sound first f) {settings : SessionSettings} (hphase : f.phase = .offered settings) :
    Sound first (f.givenUp settings) := by
  obtain ⟨hstart, hsettings⟩ := h.offered settings hphase
  have hrow : (f.givenUp settings).row = f.written := row_of_drained rfl rfl
  refine ⟨?_, (fun hrun => nomatch hrun), ?_, ?_, (fun _ ho => nomatch ho), h.starts_le, h.start_le, ?_, ?_,
    (fun _ d hd => nomatch hd)⟩
  · rw [hrow]
    exact h.counts.of_append
  · rintro (hp | hp | ⟨_, hp⟩) <;> cases hp
  · rintro settings' (hp | hp) <;> cases hp
    exact ⟨rfl, rfl, hsettings⟩
  · rw [hrow]
    show f.written.drop f.start = []
    rw [hstart, List.drop_length]
  · intro k hk u hu
    rw [hrow] at hu
    exact h.full k hk u (row_of_written hu)

theorem step (h : Sound first f) (hstep : Step codec f g) : Sound first g := by
  cases hstep with
  | take frame _ hpump => exact h.pumps (by rw [hpump]; exact fun h => nomatch h) (by rw [hpump]; rfl)
  | encode hpump => exact h.encode hpump
  | put hpump _ =>
    refine h.pumps (by rw [hpump]; exact fun h => nomatch h) ?_
    rw [hpump, PumpPlace.held, PumpPlace.held, List.append_nil]
  | finish hpump => exact h.pumps (by rw [hpump]; exact fun h => nomatch h) (by rw [hpump]; rfl)
  | write hphase hchannel => exact h.write hphase hchannel
  | refresh => exact h.recode (Encoder.isRunning_invalidate _) rfl (Encoder.blank_invalidate _)
  | resize => exact h.recode (Encoder.isRunning_setOptions _ _) rfl (Encoder.blank_setOptions _ _)
  | stay => exact h
  | leave hphase =>
    refine h.move rfl rfl rfl rfl (Nat.le_refl _) (fun _ => .inl hphase) ?_ (fun _ ho => nomatch ho)
    rintro settings (hp | hp) <;> cases hp
  | pause hphase hpump hchannel => exact h.pause hphase hpump hchannel
  | detach hphase =>
    refine h.move rfl rfl rfl rfl (Nat.le_refl _) ?_ ?_ (fun _ ho => nomatch ho)
    · rintro (hp | hp | ⟨_, hp⟩) <;> cases hp
    · rintro settings' (hp | hp) <;> cases hp
      exact h.rests _ (.inl hphase)
  | resume plan size capacity codecState hrest hstart => exact h.restart hrest hstart capacity (.inl rfl)
  | offer plan size capacity codecState hphase hstart => exact h.restart (.inr hphase) hstart capacity (.inr rfl)
  | accept hphase =>
    refine h.move rfl rfl rfl rfl (Nat.le_refl _) (fun _ => .inr (.inr ⟨_, hphase⟩)) ?_ (fun _ ho => nomatch ho)
    rintro settings (hp | hp) <;> cases hp
  | abort hphase => exact h.abort hphase
  | close =>
    refine h.move rfl rfl rfl rfl (Nat.le_refl _) ?_ ?_ (fun _ ho => nomatch ho)
    · rintro (hp | hp | ⟨_, hp⟩) <;> cases hp
    · rintro settings (hp | hp) <;> cases hp

theorem run (h : Sound first f) (hrun : Run codec f g) : Sound first g := by
  induction hrun with
  | refl => exact h
  | tail _ hstep ih => exact ih.step hstep

end Sound

/-- **Updates are numbered without a gap.** However the pump and the session take turns, and however often the
session is given away, comes back or goes on elsewhere, the updates that the viewer receives count from the
number in the first settings on. Once a pipeline has stopped, all that it has made is written, and the
settings continue the numbers. The first update after each start is a full one. -/
theorem numbering_is_gapless {plan : SessionPlan} {settings : SessionSettings} {size : Size} {codecState : σ}
    {encoder : Encoder σ} {capacity : Nat}
    (hstart : (Pipeline.newEncoder plan (Pipeline.resized settings size) codecState).start = .ok encoder)
    (hrun : Run codec (initial encoder (Pipeline.resized settings size) capacity) f) :
    (∀ i u, f.written[i]? = some u → u.sequence = settings.nextSequence + UInt64.ofNat i) ∧
      (∀ next, f.phase.Rests next →
        f.written.drop f.start = f.made ∧
          next.nextSequence = settings.nextSequence + UInt64.ofNat f.written.length ∧
          ∀ u, f.written.getLast? = some u → next.nextSequence = u.sequence + 1) ∧
      ∀ k ∈ f.starts, ∀ u, f.written[k]? = some u → u.kind = .full := by
  have h : Sound settings.nextSequence f := (sound_initial hstart capacity).run hrun
  have hcounts : Counts settings.nextSequence f.written := h.counts.of_append
  refine ⟨hcounts, fun next hrest => ?_, fun k hk u hu => h.full k hk u (row_of_written hu)⟩
  obtain ⟨hpump, hchannel, hnext⟩ := h.rests next hrest
  have hrow := row_of_drained hpump hchannel
  refine ⟨hrow ▸ h.made, hnext, fun u hu => ?_⟩
  have hlast : f.written[f.written.length - 1]? = some u := by rw [← List.getLast?_eq_getElem?, hu]
  have hpos : f.written.length - 1 + 1 = f.written.length := by
    have := (List.getElem?_eq_some_iff.1 hlast).1
    omega
  rw [hnext, hcounts _ u hlast, UInt64.add_assoc, ← hpos, UInt64.ofNat_add]
  rfl

/-- An encoder for pictures of one pixel, which sends every picture in full. -/
def pixelEncoder (next : UInt64) : Encoder Unit :=
  ⟨⟨⟨1, 1⟩, .raw, false⟩, 64, some (.new { tileSize := 64 }), next, ()⟩

/-- A picture of one pixel. -/
def pixel : Frame := ⟨1, 1, 4, 0, ⟨#[1, 2, 3, 255]⟩⟩

/-- The update that shows the pixel, under number 41. -/
def pixelUpdate : Update := ⟨41, ⟨1, 1⟩, .raw, .full, [⟨⟨0, 0, 1, 1⟩, ⟨#[1, 2, 3, 255]⟩⟩]⟩

/-- A pixel is sent under number 41, and then the session goes on in another process. -/
theorem numbering_is_gapless_pixel :
    let settings : SessionSettings := ⟨⟨1, 1⟩, .raw, false, 41⟩
    (Pipeline.newEncoder ⟨30, 64⟩ (Pipeline.resized settings ⟨1, 1⟩) ()).start = .ok (pixelEncoder 41) ∧
      ∃ f, Run TileCodec.lz4 (initial (pixelEncoder 41) settings 2) f ∧ f.phase = .serving ∧
        f.starts = [1, 0] ∧ f.encoder.nextSequence = 42 ∧ f.written = [pixelUpdate] ∧
        ∀ i u, f.written[i]? = some u → u.sequence = 41 + UInt64.ofNat i := by
  intro settings
  let before : Flow Unit := initial (pixelEncoder 41) settings 2
  let after : Flow Unit := { before with encoder := pixelEncoder 42, made := [pixelUpdate] }
  have hstart : (Pipeline.newEncoder ⟨30, 64⟩ (Pipeline.resized settings ⟨1, 1⟩) ()).start = .ok (pixelEncoder 41) :=
    rfl
  have hencode : (pixelEncoder 41).encode TileCodec.lz4 pixel = .ok (.ok (some pixelUpdate), pixelEncoder 42) := by rfl
  have hbusy : encoded TileCodec.lz4 pixel { before with pump := .busy pixel } =
      { after with pump := .holding pixelUpdate } := by
    rw [encoded, show ({ before with pump := .busy pixel } : Flow Unit).encoder = pixelEncoder 41 from rfl, hencode]
    rfl
  have hencoded : Run TileCodec.lz4 before { after with pump := .holding pixelUpdate } := by
    rw [← hbusy]
    exact .tail (.tail (.refl _) (.take pixel rfl rfl)) (.encode rfl)
  have hflushing : Run TileCodec.lz4 before { after with channel := [pixelUpdate], phase := .flushing } :=
    .tail (.tail hencoded (.put rfl (by decide))) (.leave rfl)
  have hwritten : Run TileCodec.lz4 before
      { after with pump := .ended, phase := .flushing, written := [pixelUpdate] } :=
    .tail (.tail hflushing (.finish rfl)) (.write (.inr rfl) rfl)
  have hdetached : Run TileCodec.lz4 before
      { after with
        encoder := (pixelEncoder 42).stop
        pump := .ended
        phase := .detached { settings with nextSequence := 42 }
        written := [pixelUpdate] } :=
    .tail (.tail hwritten (.pause rfl rfl rfl)) (.detach rfl)
  have hrun := Run.tail (.tail hdetached (.offer ⟨60, 64⟩ ⟨1, 1⟩ 2 () rfl rfl)) (.accept rfl)
  exact ⟨hstart, _, hrun, rfl, rfl, rfl, rfl, (numbering_is_gapless hstart hrun).1⟩

end Flow

end RemoteDesktop
