import RemoteDesktop.Proofs.Damage
import RemoteDesktop.Proofs.Lz4.Matcher
import RemoteDesktop.Proofs.Merge
import RemoteDesktop.Proofs.Painting

/-!
# The viewer shows what was encoded

An encoder and the viewer it feeds, as one system: the encoder is asked anything in any order, and the
viewer paints every update. The invariant is that the viewer shows the frame that the detector would
compare the next one with (`Trusted.shown`); a detector that has run ahead of the viewer is invalidated
and has no such frame. One request keeps the invariant (`Feed.serve_eq_ok`), and so does a run of them
(`Feed.run_eq_ok`). Main statement: `Feed.shows_encoded_frame`.
-/

namespace RemoteDesktop

namespace Encoder

variable {σ : Type}

/-- What an encoder can be asked. -/
inductive Request where
  | start
  | stop
  | setOptions (options : EncoderOptions)
  | setPixelTile (side : UInt32)
  | setNextSequence (sequence : UInt64)
  | invalidate
  | encode (f : Frame)

/-- The answer to a request: an update, nothing, or why not. -/
abbrev Reply := Except EncoderError (Option Update)

/-- What an encoder answers, and how it goes on. -/
def perform (codec : TileCodec σ) (e : Encoder σ) : Request → Checked (Reply × Encoder σ)
  | .start =>
    match e.start with
    | .ok started => .ok (.ok none, started)
    | .error reason => .ok (.error reason, e)
  | .stop => .ok (.ok none, e.stop)
  | .setOptions options => .ok (.ok none, e.setOptions options)
  | .setPixelTile side => .ok (.ok none, e.setPixelTile side)
  | .setNextSequence sequence => .ok (.ok none, e.setNextSequence sequence)
  | .invalidate => .ok (.ok none, e.invalidate)
  | .encode f => e.encode codec f

/-! ### The regions of an update -/

/-- The regions reach every pixel that a viewer of the reference does not show yet; all of them, if the
update is a full one. -/
def Reaches (reference : Option Frame) (f : Frame) (regions : List Region) : UpdateKind → Prop
  | .full => ∀ x < f.width.toNat, ∀ y < f.height.toNat, ∃ r ∈ regions, r.Contains x y
  | .diff => ∃ g ∈ reference, g.size = f.size ∧ ∀ x < f.width.toNat, ∀ y < f.height.toNat,
      g.pixel x y = f.pixel x y ∨ ∃ r ∈ regions, r.Contains x y

theorem fullRegions_reach (reference : Option Frame) (f : Frame) {options : EncoderOptions}
    (hsize : f.size = options.size) :
    (∀ r ∈ fullRegions options, r.Inside f.size ∧ Sendable options.mode r) ∧
      Reaches reference f (fullRegions options) .full := by
  have hside : 0 < tileSide.toNat := by decide
  unfold fullRegions
  rw [← hsize]
  cases options.mode with
  | raw =>
    refine ⟨by simp [Region.whole_inside, Sendable], fun x hx y hy => ⟨_, List.mem_singleton_self _, ?_⟩⟩
    simp only [Region.whole, Region.Contains, Region.left, Region.right, Region.top, Region.bottom, Frame.size,
      UInt32.toNat_zero]
    omega
  | rfx =>
    exact ⟨fun r hr => ⟨Region.inside_of_mem_grid hside hr, fun _ => Region.le_side_of_mem_grid hside hr⟩,
      fun x hx y hy => Region.exists_mem_grid_contains f.size hside hx hy⟩

/-- Regions that hold all tiles reach what the tiles do. -/
theorem reaches_of_tiles {side : UInt32} (hside : 0 < side.toNat) {f g : Frame} {reference : Option Frame}
    (hg : g ∈ reference) (hl : f.SameLayout g) {tiles regions : List Region}
    (hall : ∀ t ∈ Region.grid side f.size, f.DifferIn g t → t ∈ tiles)
    (hregions : ∀ t ∈ tiles, ∃ r ∈ regions, t.Within r) : Reaches reference f regions .diff := by
  refine ⟨g, hg, by rw [Frame.size, Frame.size, hl.1, hl.2.1], fun x hx y hy => ?_⟩
  by_cases hsame : g.pixel x y = f.pixel x y
  · exact Or.inl hsame
  · obtain ⟨t, ht, hxy⟩ := Region.exists_mem_grid_contains f.size hside hx hy
    obtain ⟨r, hr, htr⟩ := hregions t (hall t ht ⟨x, y, hxy, Ne.symm hsame⟩)
    exact Or.inr ⟨r, hr, htr.contains hxy⟩

/-- A report becomes regions inside the frame that reach what it describes, or nothing if nothing
changed. -/
theorem regions_eq_ok {options : EncoderOptions} {f : Frame} (hsize : f.size = options.size) {side : UInt32}
    (hside : 0 < side.toNat) (htiles : options.mode = .rfx → side = tileSide) {reference : Option Frame}
    (distance : UInt32) {damage : Damage} (h : Detector.Describes side reference f damage) :
    (regions options distance damage = .ok none ∧ ∃ g ∈ reference, f.SamePixels g) ∨
      ∃ kind rs, regions options distance damage = .ok (some (kind, rs)) ∧
        (∀ r ∈ rs, r.Inside f.size ∧ Sendable options.mode r) ∧ Reaches reference f rs kind := by
  cases damage with
  | full =>
    obtain ⟨hr, hreach⟩ := fullRegions_reach reference f hsize
    exact Or.inr ⟨.full, _, rfl, hr, hreach⟩
  | unchanged =>
    obtain ⟨g, hg, -, hsame⟩ := h
    exact Or.inl ⟨rfl, g, hg, hsame⟩
  | partly tiles =>
    obtain ⟨g, hg, hl, -, hsub, -, hall⟩ := h
    have hinside : ∀ t ∈ tiles, t.Inside f.size := fun t ht =>
      Region.inside_of_mem_grid hside (hsub.subset ht)
    refine Or.inr ?_
    unfold regions
    cases hmode : options.mode with
    | raw =>
      obtain ⟨out, hout, hclusters⟩ := Region.merge_clusters distance fun t ht => (hinside t ht).fits
      refine ⟨.diff, out, by simp [hout, bind, Except.bind, pure, Except.pure],
        fun r hr => ⟨hclusters.inside hinside r hr, by simp [Sendable]⟩, ?_⟩
      exact reaches_of_tiles hside hg hl hall fun t ht => hclusters.exists_within ht
    | rfx =>
      have hle := htiles hmode
      refine ⟨.diff, tiles, rfl, fun r hr => ⟨hinside r hr, fun _ => ?_⟩, ?_⟩
      · exact hle ▸ Region.le_side_of_mem_grid hside (hsub.subset hr)
      · exact reaches_of_tiles hside hg hl hall fun t ht => ⟨t, ht, t.within_self⟩

/-! ### One frame -/

/-- What the viewer shows is what the detector of an encoder takes it to show. -/
structure Trusted (options : EncoderOptions) (p : Picture) (d : Detector) : Prop where
  sound : d.Sound
  /-- Changes are found tile by tile as the codec takes them. -/
  tiles : options.mode = .rfx → d.settings.tileSize = tileSide
  /-- A detector that is not asked has nothing to compare with. -/
  idle : options.onlyChanges = false → d.reference = none
  shown : ∀ g ∈ d.reference, p.Shows g

theorem Trusted.of_reference {options : EncoderOptions} {p : Picture} {d : Detector} (hd : d.Sound)
    (ht : options.mode = .rfx → d.settings.tileSize = tileSide) (hr : d.reference = none) :
    Trusted options p d :=
  ⟨hd, ht, fun _ => hr, by simp [hr]⟩

theorem Trusted.invalidate {options : EncoderOptions} {p : Picture} {d : Detector} (h : Trusted options p d) :
    Trusted options p d.invalidate :=
  .of_reference h.sound.invalidate h.tiles d.reference_invalidate

theorem Trusted.fresh (e : Encoder σ) (p : Picture) : Trusted e.options p e.freshDetector := by
  refine .of_reference (.new _) (fun hm => ?_) (Detector.reference_new _)
  rw [freshDetector, if_pos hm]
  rfl

/-- Looking at a frame, or not looking, gives a report that describes it. -/
theorem inspect_eq_ok {options : EncoderOptions} {p : Picture} {d : Detector} (hd : Trusted options p d)
    {f : Frame} (hf : f.WellFormed) :
    ∃ damage next, inspect options d f = .ok (damage, next) ∧
      Detector.Describes d.settings.tileSize d.reference f damage ∧
        Trusted options p next.invalidate ∧ ∀ q : Picture, q.Shows f → Trusted options q next := by
  unfold inspect
  cases honly : options.onlyChanges with
  | false =>
    have hnone := hd.idle honly
    exact ⟨.full, d, rfl, by simp [Detector.Describes, hnone], hd.invalidate,
      fun q _ => .of_reference hd.sound hd.tiles hnone⟩
  | true =>
    obtain ⟨damage, next, hdetect, hdesc, hsound, hsettings, g, hg, -, hsame⟩ := Detector.detect_eq_ok hd.sound hf
    have htiles : options.mode = .rfx → next.settings.tileSize = tileSide := hsettings ▸ hd.tiles
    refine ⟨damage, next, hdetect, hdesc, .of_reference hsound.invalidate htiles next.reference_invalidate,
      fun q hq => ⟨hsound, htiles, by simp [honly], ?_⟩⟩
    rw [hg]
    rintro _ ⟨⟩
    exact hq.of_samePixels hsame

/-- Painting an update whose rectangles depict a frame and reach what the viewer does not show makes the
viewer show the frame. -/
theorem apply_eq_ok {p : Picture} {reference : Option Frame} (hp : ∀ g ∈ reference, p.Shows g) {f : Frame}
    {u : Update} (hsize : f.size = u.size) (hdepict : ∀ rect ∈ u.rects, rect.Depicts u.mode f)
    (hreach : Reaches reference f (u.rects.map (·.region)) u.kind) :
    ∃ q, p.apply u = .ok q ∧ q.Shows f := by
  unfold Picture.apply
  cases hkind : u.kind with
  | full =>
    rw [hkind] at hreach
    obtain ⟨q, hq, hqs, hshow⟩ := Picture.paintAll_eq_ok hdepict { p with size := u.size }
    refine ⟨q, hq, hqs.trans hsize.symm, fun x hx y hy => hshow x y (Or.inr ?_)⟩
    obtain ⟨r, hr, hxy⟩ := hreach x hx y hy
    obtain ⟨rect, hrect, rfl⟩ := List.mem_map.1 hr
    exact ⟨rect, hrect, hxy⟩
  | diff =>
    rw [hkind] at hreach
    obtain ⟨g, hg, hgs, hall⟩ := hreach
    obtain ⟨hps, hpx⟩ := hp g hg
    obtain ⟨q, hq, hqs, hshow⟩ := Picture.paintAll_eq_ok hdepict p
    refine ⟨q, hq, hqs.trans (hps.trans hgs), fun x hx y hy => hshow x y ?_⟩
    have hw : f.width = g.width := (congrArg Size.width hgs).symm
    have hh : f.height = g.height := (congrArg Size.height hgs).symm
    rcases hall x hx y hy with hsame | ⟨r, hr, hxy⟩
    · exact Or.inl ((hpx x (hw ▸ hx) y (hh ▸ hy)).trans hsame)
    · obtain ⟨rect, hrect, rfl⟩ := List.mem_map.1 hr
      exact Or.inr ⟨rect, hrect, hxy⟩

end Encoder

/-- What a viewer makes of an answer: it paints an update, and nothing else concerns it. -/
def Picture.receive (p : Picture) : Encoder.Reply → Except Lz4.BlockError Picture
  | .ok (some update) => p.apply update
  | _ => .ok p

namespace Encoder

variable {σ : Type}

/-- Encoding a frame of the right size: the answer can be painted, the detector is right about the
picture again, and unless a tile was refused the picture is the frame's. -/
theorem encode_eq_ok {codec : TileCodec σ} (hc : codec.Faithful) {e : Encoder σ} {d : Detector}
    (he : e.detector = some d) {p : Picture} (hd : Trusted e.options p d) {f : Frame} (hf : f.WellFormed)
    (hsize : f.size = e.options.size) :
    ∃ reply after q next, e.encode codec f = .ok (reply, after) ∧ p.receive reply = .ok q ∧
      after.options = e.options ∧ after.detector = some next ∧ Trusted e.options q next ∧
      (∀ update, reply = .ok update → q.Shows f) ∧ (e.options.mode = .raw → ∃ update, reply = .ok update) := by
  obtain ⟨damage, next, hinspect, hdesc, hforget, htrust⟩ := inspect_eq_ok hd hf
  simp only [encode, he, hsize, ne_eq, not_true_eq_false, if_false, hinspect, bind, Except.bind, pure,
    Except.pure]
  rcases regions_eq_ok hsize hd.sound.tile hd.tiles next.settings.mergeDistance hdesc with
    ⟨hregions, g, hg, hsame⟩ | ⟨kind, rs, hregions, hrs, hreach⟩
  · have hshow : p.Shows f := (hd.shown g hg).of_samePixels hsame
    simp only [hregions]
    exact ⟨_, _, p, next, rfl, rfl, rfl, rfl, htrust p hshow, fun _ _ => hshow, fun _ => ⟨_, rfl⟩⟩
  · obtain ⟨result, codecState, hencode, hrects, hraw⟩ := encodeRegions_eq_ok hc hf
      (fun r hr => (hrs r hr).1) (fun r hr => (hrs r hr).2) e.codecState
    simp only [hregions, hencode]
    cases result with
    | error reason =>
      -- the detector has taken note of a frame that was not sent; it is invalidated, so it is right again
      refine ⟨_, _, p, next.invalidate, rfl, rfl, rfl, rfl, hforget, by simp, fun hm => ?_⟩
      obtain ⟨rects, hr⟩ := hraw hm
      cases hr
    | ok rects =>
      obtain ⟨hmap, hdepict⟩ := hrects rects rfl
      obtain ⟨q, hq, hshow⟩ := apply_eq_ok hd.shown (f := f)
        (u := ⟨e.nextSequence, e.options.size, e.options.mode, kind, rects⟩) hsize hdepict (hmap ▸ hreach)
      exact ⟨_, _, q, next, rfl, hq, rfl, rfl, htrust q hshow, fun _ _ => hshow, fun _ => ⟨_, rfl⟩⟩

end Encoder

/-! ### The whole run -/

/-- An encoder and the picture of the viewer that paints its updates. -/
structure Feed (σ : Type) where
  encoder : Encoder σ
  picture : Picture

namespace Feed

open Encoder

variable {σ : Type}

/-- Why a feed breaks down. -/
inductive Failure where
  /-- The encoder stops with a fault. -/
  | fault (fault : Fault)
  /-- The viewer cannot unpack a rectangle. -/
  | block (error : Lz4.BlockError)
  deriving DecidableEq

/-- Ask the encoder, and paint its answer. -/
def serve (codec : TileCodec σ) (feed : Feed σ) (request : Request) : Except Failure (Reply × Feed σ) :=
  match feed.encoder.perform codec request with
  | .error fault => .error (.fault fault)
  | .ok (reply, encoder) =>
    match feed.picture.receive reply with
    | .error e => .error (.block e)
    | .ok picture => .ok (reply, ⟨encoder, picture⟩)

/-- Ask one thing after the other. -/
def run (codec : TileCodec σ) : List Request → Feed σ → Except Failure (Feed σ)
  | [], feed => .ok feed
  | request :: requests, feed => do
    let (_, feed) ← feed.serve codec request
    run codec requests feed

/-- The encoder is stopped, or its detector is right about the picture. -/
def InStep (feed : Feed σ) : Prop :=
  ∀ d ∈ feed.encoder.detector, Trusted feed.encoder.options feed.picture d

/-- The frame of a request to encode is well-formed. -/
def WellFormedRequest : Request → Prop
  | .encode f => f.WellFormed
  | _ => True

/-- Whatever an encoder in step with its viewer is asked, it stays in step. After a frame that was
answered with an update or with nothing, the viewer shows it. -/
theorem serve_eq_ok {codec : TileCodec σ} (hc : codec.Faithful) {feed : Feed σ} (hfeed : feed.InStep)
    {request : Request} (hr : WellFormedRequest request) :
    ∃ reply after, feed.serve codec request = .ok (reply, after) ∧ after.InStep ∧
      ∀ f, request = .encode f →
        (∀ update, reply = .ok update → after.picture.Shows f) ∧
        (feed.encoder.isRunning = true → f.size = feed.encoder.options.size →
          feed.encoder.options.mode = .raw → ∃ update, reply = .ok update) := by
  obtain ⟨e, p⟩ := feed
  cases request with
  | start =>
    by_cases hrun : e.isRunning = true
    · exact ⟨_, ⟨e, p⟩, by simp [serve, perform, Encoder.start, hrun, Picture.receive]; rfl, hfeed, by simp⟩
    · refine ⟨.ok none, ⟨{ e with detector := some e.freshDetector }, p⟩,
        by simp [serve, perform, Encoder.start, hrun, Picture.receive], ?_, by simp⟩
      rintro d ⟨⟩
      exact .fresh e p
  | stop => exact ⟨.ok none, ⟨e.stop, p⟩, rfl, by rintro d ⟨⟩, by simp⟩
  | setOptions options =>
    refine ⟨.ok none, ⟨e.setOptions options, p⟩, rfl, fun d hd => ?_, by simp⟩
    simp only [Encoder.setOptions, Option.mem_def, Option.map_eq_some_iff] at hd
    obtain ⟨-, -, rfl⟩ := hd
    exact .fresh { e with options } p
  | setPixelTile side => exact ⟨.ok none, ⟨e.setPixelTile side, p⟩, rfl, hfeed, by simp⟩
  | setNextSequence sequence => exact ⟨.ok none, ⟨e.setNextSequence sequence, p⟩, rfl, hfeed, by simp⟩
  | invalidate =>
    refine ⟨.ok none, ⟨e.invalidate, p⟩, rfl, fun d hd => ?_, by simp⟩
    simp only [Encoder.invalidate, Option.mem_def, Option.map_eq_some_iff] at hd
    obtain ⟨d, hd, rfl⟩ := hd
    exact (hfeed d hd).invalidate
  | encode f =>
    cases he : e.detector with
    | none =>
      refine ⟨.error .notRunning, ⟨e, p⟩, by simp [serve, perform, encode, he, Picture.receive], hfeed, ?_⟩
      rintro _ ⟨⟩
      simp [isRunning, he]
    | some d =>
      by_cases hsize : f.size = e.options.size
      · obtain ⟨reply, after, q, next, henc, hq, hopts, hdet, htrust, hshow, hraw⟩ :=
          encode_eq_ok hc he (hfeed d he) hr hsize
        refine ⟨reply, ⟨after, q⟩, by simp [serve, perform, henc, hq], fun d' hd' => ?_, ?_⟩
        · rw [hdet] at hd'
          cases hd'
          exact hopts ▸ htrust
        · rintro _ ⟨⟩
          exact ⟨hshow, fun _ _ => hraw⟩
      · refine ⟨.error (.sizeMismatch f.size e.options.size), ⟨e, p⟩,
          by simp [serve, perform, encode, he, hsize, Picture.receive], hfeed, ?_⟩
        rintro _ ⟨⟩
        exact ⟨by simp, fun _ h => absurd h hsize⟩

/-- A run of requests does not break down, and ends in step. -/
theorem run_eq_ok {codec : TileCodec σ} (hc : codec.Faithful) {requests : List Request}
    (hr : ∀ request ∈ requests, WellFormedRequest request) {feed : Feed σ} (hfeed : feed.InStep) :
    ∃ after, run codec requests feed = .ok after ∧ after.InStep := by
  induction requests generalizing feed with
  | nil => exact ⟨feed, rfl, hfeed⟩
  | cons request requests ih =>
    obtain ⟨reply, next, hserve, hnext, -⟩ := serve_eq_ok hc hfeed (hr request List.mem_cons_self)
    obtain ⟨after, hrun, hafter⟩ := ih (fun r h => hr r (List.mem_cons_of_mem _ h)) hnext
    exact ⟨after, by simp [run, hserve, hrun, bind, Except.bind], hafter⟩

/-- **Screen fidelity.** From a new encoder and any picture, let anything be asked in any order. A frame
that is then encoded is answered, the answer can be painted, and unless it is an error the viewer shows
exactly the frame. A running encoder answers a frame of its size in mode `raw` without error. -/
theorem shows_encoded_frame {codec : TileCodec σ} (hc : codec.Faithful) (options : EncoderOptions)
    (state : σ) (canvas : Picture) (requests : List Request)
    (hr : ∀ request ∈ requests, WellFormedRequest request) {f : Frame} (hf : f.WellFormed) :
    ∃ feed reply after, run codec requests ⟨.new options state, canvas⟩ = .ok feed ∧
      feed.serve codec (.encode f) = .ok (reply, after) ∧
      (∀ update, reply = .ok update → after.picture.Shows f) ∧
      (feed.encoder.isRunning = true → f.size = feed.encoder.options.size →
        feed.encoder.options.mode = .raw → ∃ update, reply = .ok update) := by
  have hnew : (⟨.new options state, canvas⟩ : Feed σ).InStep := by
    rintro d ⟨⟩
  obtain ⟨feed, hrun, hfeed⟩ := run_eq_ok hc hr hnew
  obtain ⟨reply, after, hserve, -, hencode⟩ := serve_eq_ok hc hfeed (show WellFormedRequest (.encode f) from hf)
  obtain ⟨hshow, hanswer⟩ := hencode f rfl
  exact ⟨feed, reply, after, hrun, hserve, hshow, hanswer⟩

/-- Two pixels of one shade in a padded row. -/
def shadeFrame (shade : UInt8) : Frame :=
  ⟨2, 1, 12, 0, ⟨#[shade, shade, shade, 255, shade, shade, shade, 255, 0, 0, 0, 0]⟩⟩

/-- Another shade is sent as a change, without the padding, and painted. -/
theorem shows_encoded_frame_shade :
    TileCodec.lz4.Faithful ∧ (∀ request ∈ [.start, .encode (shadeFrame 0)], WellFormedRequest request) ∧
      (shadeFrame 9).WellFormed ∧
      ∃ feed after, run .lz4 [.start, .encode (shadeFrame 0)]
          ⟨.new ⟨⟨2, 1⟩, .raw, true⟩ (), ⟨⟨0, 0⟩, fun _ _ => default⟩⟩ = .ok feed ∧
        feed.serve .lz4 (.encode (shadeFrame 9)) =
          .ok (.ok (some ⟨1, ⟨2, 1⟩, .raw, .diff, [⟨⟨0, 0, 2, 1⟩, ⟨#[9, 9, 9, 255, 9, 9, 9, 255]⟩⟩]⟩), after) ∧
        after.picture.Shows (shadeFrame 9) := by
  have hshade : ∀ shade, (shadeFrame shade).WellFormed := fun shade => ⟨rfl, show 2 * 4 ≤ 12 by decide⟩
  have hr : ∀ request ∈ [.start, .encode (shadeFrame 0)], WellFormedRequest request := by
    simp [WellFormedRequest, hshade]
  have hreply : (do
      let feed ← run .lz4 [.start, .encode (shadeFrame 0)]
        ⟨.new ⟨⟨2, 1⟩, .raw, true⟩ (), ⟨⟨0, 0⟩, fun _ _ => default⟩⟩
      return (← feed.serve .lz4 (.encode (shadeFrame 9))).1) =
        .ok (.ok (some ⟨1, ⟨2, 1⟩, .raw, .diff, [⟨⟨0, 0, 2, 1⟩, ⟨#[9, 9, 9, 255, 9, 9, 9, 255]⟩⟩]⟩)) := by
    decide +kernel
  obtain ⟨feed, reply, after, hrun, hserve, hshows, -⟩ :=
    shows_encoded_frame TileCodec.lz4_faithful ⟨⟨2, 1⟩, .raw, true⟩ () ⟨⟨0, 0⟩, fun _ _ => default⟩ _ hr (hshade 9)
  simp only [hrun, hserve, bind, Except.bind, pure, Except.pure] at hreply
  cases hreply
  exact ⟨TileCodec.lz4_faithful, hr, hshade 9, feed, after, hrun, hserve, hshows _ rfl⟩

end Feed

end RemoteDesktop
