import RemoteDesktop.Proofs.Damage.Exact
import RemoteDesktop.Proofs.Emission

/-!
# Padding is never seen

Two encoders are asked the same things, one after the other, but for the padding of the frames. The detector of each
keeps the padding of its own frames, so the two never become equal. What stays true is that they differ in nothing else
(`SameButPadding`). Comparing frames reads visible bytes only (`Detector.changedTiles_congr`), and so does packing them
(`Frame.SameButPadding.pack_eq`), which is why one request keeps the two alike and gets the same reply from both
(`Encoder.SameButPadding.perform`). Main statement: `Encoder.padding_is_invisible`.
-/

namespace RemoteDesktop

/-! ### Frames -/

namespace Frame

/-- The frames have one layout, the same visible pixels, and buffers of one length. Their padding may differ, and so may
the time they were taken. -/
structure SameButPadding (f g : Frame) : Prop extends f.Alike g where
  length : f.data.size = g.data.size

/-- Well-formed frames with one layout and the same visible pixels have buffers of one length. -/
theorem Alike.sameButPadding {f g : Frame} (h : f.Alike g) (hf : f.WellFormed) (hg : g.WellFormed) :
    f.SameButPadding g := ⟨h, by rw [hf.1, hg.1, h.layout.2.1, h.layout.2.2]⟩

namespace SameButPadding

theorem refl (f : Frame) : f.SameButPadding f := ⟨⟨⟨rfl, rfl, rfl⟩, rfl, fun _ _ _ _ => rfl⟩, rfl⟩

variable {f g : Frame}

/-- The pixels of a row are the same bytes in both buffers. -/
theorem byteAt_eq (h : f.SameButPadding g) {y i : Nat} (hy : y < f.height.toNat) (hi : i < f.rowLength) :
    Bytes.byteAt f.data (y * f.stride.toNat + i) = Bytes.byteAt g.data (y * f.stride.toNat + i) := by
  rw [rowLength, bytesPerPixel] at hi
  have hpixel := (pixel_eq_iff h.layout.2.2).1 (h.pixels.2 (i / 4) (by omega) y hy) (i % 4) (by omega)
  rwa [Nat.add_assoc, Nat.div_add_mod'] at hpixel

theorem row_eq (h : f.SameButPadding g) {y : Nat} (hy : y < f.height.toNat) : f.row y = g.row y := by
  rw [row, row, rowLength, rowLength, ← h.layout.1, ← h.layout.2.2]
  exact Bytes.slice_congr h.length fun i hi => h.byteAt_eq hy hi

theorem packRows_eq (h : f.SameButPadding g) (start length : Nat) {y rows : Nat} (hrows : y + rows ≤ f.height.toNat)
    (out : ByteArray) : f.packRows start length y rows out = g.packRows start length y rows out := by
  induction rows generalizing y out with
  | zero => rfl
  | succ rows ih =>
    rw [packRows, packRows, ← h.row_eq (by omega)]
    refine bind_congr_of_ok fun row _ => bind_congr_of_ok fun bytes _ => ?_
    exact ih (by omega) _

/-- Regions of the picture are packed alike. -/
theorem pack_eq (h : f.SameButPadding g) {r : Region} (hr : r.Inside f.size) : f.pack r = g.pack r := by
  rw [pack, pack]
  refine bind_congr_of_ok fun length _ => bind_congr_of_ok fun start _ => bind_congr_of_ok fun bottom _ => ?_
  exact h.packRows_eq _ _ hr.2 _

end SameButPadding

end Frame

/-! ### Detectors -/

namespace Detector

open Damage

theorem rowsDiffer_congr {current current' baseline baseline' : ByteArray} (hc : current.size = current'.size)
    (hb : baseline.size = baseline'.size) (stride length start rows : Nat)
    (h : ∀ row < rows, ∀ i < length,
      Bytes.byteAt current (start + row * stride + i) = Bytes.byteAt current' (start + row * stride + i) ∧
        Bytes.byteAt baseline (start + row * stride + i) = Bytes.byteAt baseline' (start + row * stride + i)) :
    rowsDiffer current baseline stride length start rows = rowsDiffer current' baseline' stride length start rows := by
  induction rows generalizing start with
  | zero => rfl
  | succ rows ih =>
    have hfirst := h 0 (Nat.zero_lt_succ rows)
    simp only [Nat.zero_mul, Nat.add_zero] at hfirst
    have hagree := Bytes.agreeOn_congr (fun i hi => (hfirst i hi).1) fun i hi => (hfirst i hi).2
    have hrest := ih (start + stride) fun row hrow => by
      rw [Nat.add_assoc start, Nat.add_comm stride, ← Nat.add_one_mul]
      exact h (row + 1) (by omega)
    rw [rowsDiffer, rowsDiffer, stretchDiffers, stretchDiffers, ← hc, ← hb, hagree, hrest]

variable {f f' g g' : Frame}

/-- Whether two frames differ in a tile depends on visible bytes only. -/
theorem tileDiffers_congr (hf : f.SameButPadding f') (hg : g.SameButPadding g') (hl : f.SameLayout g) {t : Region}
    (ht : t.Inside f.size) : tileDiffers f.data g.data f.stride t = tileDiffers f'.data g'.data f.stride t := by
  obtain ⟨hright, hbottom⟩ := ht
  simp only [Region.right, Region.bottom, Frame.size] at hright hbottom
  rw [tileDiffers, tileDiffers]
  refine bind_congr_of_ok fun start hstart => bind_congr_of_ok fun length hlength => bind_congr_of_ok fun _ _ => ?_
  rw [Word.mul_eq_ok_iff] at hstart hlength
  simp only [UInt32.reduceToNat] at hstart hlength
  refine rowsDiffer_congr hf.length hg.length _ _ _ _ fun row hrow i hi => ?_
  have hplace : t.y.toNat * f.stride.toNat + start.toNat + row * f.stride.toNat + i =
      (t.y.toNat + row) * f.stride.toNat + (start.toNat + i) := by
    rw [Nat.add_mul]
    omega
  have hy : t.y.toNat + row < f.height.toNat := by omega
  have hi : start.toNat + i < f.rowLength := by
    rw [Frame.rowLength, bytesPerPixel]
    omega
  rw [hplace]
  refine ⟨hf.byteAt_eq hy hi, ?_⟩
  have hbaseline := hg.byteAt_eq (hl.2.1 ▸ hy) (show start.toNat + i < g.rowLength by rwa [Frame.rowLength, ← hl.1])
  rwa [← hl.2.2] at hbaseline

theorem changedTiles_congr (hf : f.SameButPadding f') (hg : g.SameButPadding g') (hl : f.SameLayout g)
    {tiles : List Region} (ht : ∀ t ∈ tiles, t.Inside f.size) :
    changedTiles f.data g.data f.stride tiles = changedTiles f'.data g'.data f.stride tiles := by
  induction tiles with
  | nil => rfl
  | cons t tiles ih =>
    rw [changedTiles, changedTiles, tileDiffers_congr hf hg hl (ht t List.mem_cons_self),
      ih fun s hs => ht s (List.mem_cons_of_mem _ hs)]

/-- The detectors differ at most in the padding of the frames that they remember. -/
structure SameButPadding (d d' : Detector) : Prop where
  settings : d.settings = d'.settings
  layout : d.layout = d'.layout
  invalidated : d.invalidated = d'.invalidated
  stats : d.stats = d'.stats
  baseline : ∀ l ∈ d.layout, (l.frame d.baseline).SameButPadding (l.frame d'.baseline)

theorem SameButPadding.new (settings : Settings) : (new settings).SameButPadding (new settings) :=
  ⟨rfl, rfl, rfl, rfl, nofun⟩

theorem SameButPadding.invalidate {d d' : Detector} (h : d.SameButPadding d') :
    d.invalidate.SameButPadding d'.invalidate := ⟨h.settings, h.layout, rfl, h.stats, h.baseline⟩

/-- What detectors remember of frames that differ in padding differs in padding. -/
theorem layout_frame_sameButPadding (hf : f.SameButPadding f') :
    ∀ l ∈ some (Layout.of f), (l.frame f.data).SameButPadding (l.frame f'.data) := by
  obtain ⟨width, height, stride, _, data⟩ := f
  obtain ⟨width', height', stride', _, data'⟩ := f'
  obtain ⟨⟨⟨rfl, rfl, rfl⟩, hpixels⟩, hlength⟩ := hf
  rintro _ ⟨⟩
  exact ⟨⟨⟨rfl, rfl, rfl⟩, hpixels⟩, hlength⟩

/-- Looking at frames that differ in padding gives the same report, and the detectors stay alike. -/
theorem SameButPadding.detect {d d' : Detector} (h : d.SameButPadding d') (ht : 0 < d.settings.tileSize.toNat)
    (hf : f.SameButPadding f') :
    SameEnd (SameAnswer SameButPadding) (d.detect f) (d'.detect f') := by
  obtain ⟨settings, baseline, layout, invalidated, stats⟩ := d
  obtain ⟨settings', baseline', layout', invalidated', stats'⟩ := d'
  obtain ⟨rfl, rfl, rfl, rfl, hbaseline⟩ := h
  have hlayout : Layout.of f = Layout.of f' := by rw [Layout.of, Layout.of, hf.layout.size_eq, hf.layout.2.2]
  have hdata := layout_frame_sameButPadding hf
  simp only [Detector.detect, ← hlayout, ← hf.layout.size_eq, ← hf.layout.1, ← hf.layout.2.1, ← hf.layout.2.2]
  split
  · exact .ok ⟨rfl, rfl, rfl, rfl, rfl, hdata⟩
  next hold =>
    rw [not_or, Bool.not_eq_true, not_not] at hold
    obtain ⟨-, rfl⟩ := hold
    refine SameEnd.bind_same fun tiles htiles => ?_
    rw [Region.cutGrid_eq] at htiles
    cases htiles
    have hchanged := changedTiles_congr hf (hbaseline _ rfl) (layout_frame_of f baseline)
      fun t ht' => Region.inside_of_mem_grid ht ht'
    simp only [Layout.frame] at hchanged
    rw [hchanged]
    refine SameEnd.bind_same fun changed _ => ?_
    split
    · exact .ok ⟨rfl, rfl, rfl, rfl, rfl, hbaseline⟩
    · exact .ok ⟨rfl, rfl, rfl, rfl, rfl, hdata⟩

end Detector

/-! ### Encoders -/

namespace Encoder

variable {σ : Type} {codec : TileCodec σ} {f f' : Frame}

theorem encodeRegion_congr (hf : f.SameButPadding f') (mode : Mode) (state : σ) {r : Region} (hr : r.Inside f.size) :
    encodeRegion codec mode f state r = encodeRegion codec mode f' state r := by
  rw [encodeRegion, encodeRegion, hf.pack_eq hr]

/-- The rectangles of regions of the picture do not depend on the padding. -/
theorem encodeRegions_congr (hf : f.SameButPadding f') (mode : Mode) {regions : List Region}
    (hregions : ∀ r ∈ regions, r.Inside f.size) (state : σ) :
    encodeRegions codec mode f regions state = encodeRegions codec mode f' regions state := by
  induction regions generalizing state with
  | nil => rfl
  | cons r regions ih =>
    rw [encodeRegions, encodeRegions, encodeRegion_congr hf mode state (hregions r List.mem_cons_self)]
    refine bind_congr_of_ok ?_
    rintro ⟨result, next⟩ -
    cases result with
    | error reason => rfl
    | ok rect => simp only [ih fun s hs => hregions s (List.mem_cons_of_mem _ hs)]

theorem inspect_congr {options : EncoderOptions} {d d' : Detector} (hd : d.SameButPadding d') (hsuits : Suits options d)
    (hf : f.SameButPadding f') :
    SameEnd (SameAnswer Detector.SameButPadding) (inspect options d f) (inspect options d' f') := by
  rw [inspect, inspect]
  split
  · exact hd.detect hsuits.tile hf
  · exact .ok ⟨rfl, hd⟩

/-- The encoders differ at most in what their detectors remember of padding. -/
structure SameButPadding (e e' : Encoder σ) : Prop where
  options : e.options = e'.options
  pixelTile : e.pixelTile = e'.pixelTile
  nextSequence : e.nextSequence = e'.nextSequence
  codecState : e.codecState = e'.codecState
  detector : Option.Rel Detector.SameButPadding e.detector e'.detector

/-- Two requests are the same, but for the padding of a frame to encode. -/
inductive Request.SameButPadding : Request → Request → Prop where
  | same (request : Request) : SameButPadding request request
  | encode {f g : Frame} : f.SameButPadding g → SameButPadding (.encode f) (.encode g)

namespace SameButPadding

theorem encode {e e' : Encoder σ} (h : e.SameButPadding e') (hs : e.Suited) (hf : f.SameButPadding f') :
    SameEnd (SameAnswer SameButPadding) (e.encode codec f) (e'.encode codec f') := by
  obtain ⟨options, pixelTile, detector, sequence, codecState⟩ := e
  obtain ⟨options', pixelTile', detector', sequence', codecState'⟩ := e'
  obtain ⟨rfl, rfl, rfl, rfl, hdetector⟩ := h
  cases hdetector with
  | none => exact .ok ⟨rfl, rfl, rfl, rfl, rfl, .none⟩
  | @some d d' hd =>
    simp only [Encoder.encode, ← hf.layout.size_eq]
    split
    · exact .ok ⟨rfl, rfl, rfl, rfl, rfl, .some hd⟩
    next hsize =>
    rw [not_not] at hsize
    refine (inspect_congr hd (hs d rfl) hf).bind ?_
    rintro ⟨damage, next⟩ ⟨_, next'⟩ hinspect - ⟨rfl, hnext : next.SameButPadding next'⟩
    rw [← hnext.settings]
    refine SameEnd.bind_same fun places hplaces => ?_
    cases places with
    | none => exact .ok ⟨rfl, rfl, rfl, rfl, rfl, .some hnext⟩
    | some places =>
      obtain ⟨kind, places⟩ := places
      obtain ⟨hinside, -, -⟩ := regions_spec hsize (hs d rfl) hinspect hplaces
      simp only [encodeRegions_congr hf options.mode (fun r hr => (hinside r hr).1) codecState]
      refine SameEnd.bind_same ?_
      rintro ⟨result, codecState⟩ -
      cases result with
      | error reason => exact .ok ⟨rfl, rfl, rfl, rfl, rfl, .some hnext.invalidate⟩
      | ok rects => exact .ok ⟨rfl, rfl, rfl, rfl, rfl, .some hnext⟩

/-- Asked the same but for padding, the encoders answer alike and stay alike. -/
theorem perform {e e' : Encoder σ} (h : e.SameButPadding e') (hs : e.Suited) {request request' : Request}
    (hr : request.SameButPadding request') :
    SameEnd (SameAnswer SameButPadding) (e.perform codec request) (e'.perform codec request') := by
  cases hr with
  | encode hf => exact h.encode hs hf
  | same request =>
    obtain ⟨options, pixelTile, detector, sequence, codecState⟩ := e
    obtain ⟨options', pixelTile', detector', sequence', codecState'⟩ := e'
    obtain ⟨rfl, rfl, rfl, rfl, hdetector⟩ := id h
    cases request with
    | encode f => exact h.encode hs (.refl f)
    | start =>
      cases hdetector with
      | none => exact .ok ⟨rfl, rfl, rfl, rfl, rfl, .some (.new _)⟩
      | some hd => exact .ok ⟨rfl, h⟩
    | stop => exact .ok ⟨rfl, rfl, rfl, rfl, rfl, .none⟩
    | setOptions options =>
      cases hdetector with
      | none => exact .ok ⟨rfl, rfl, rfl, rfl, rfl, .none⟩
      | some hd => exact .ok ⟨rfl, rfl, rfl, rfl, rfl, .some (.new _)⟩
    | setPixelTile side => exact .ok ⟨rfl, rfl, rfl, rfl, rfl, hdetector⟩
    | setNextSequence sequence => exact .ok ⟨rfl, rfl, rfl, rfl, rfl, hdetector⟩
    | invalidate =>
      cases hdetector with
      | none => exact .ok ⟨rfl, rfl, rfl, rfl, rfl, .none⟩
      | some hd => exact .ok ⟨rfl, rfl, rfl, rfl, rfl, .some hd.invalidate⟩

end SameButPadding

/-- What an encoder answers to one request after the other. -/
def replies (codec : TileCodec σ) : List Request → Encoder σ → Checked (List Reply)
  | [], _ => .ok []
  | request :: requests, e => do
    let (reply, e) ← e.perform codec request
    return reply :: (← replies codec requests e)

theorem SameButPadding.replies {requests requests' : List Request}
    (hr : List.Forall₂ Request.SameButPadding requests requests') {e e' : Encoder σ} (h : e.SameButPadding e')
    (hs : e.Suited) : e.replies codec requests = e'.replies codec requests' := by
  induction hr generalizing e e' with
  | nil => rfl
  | cons hfirst _ ih =>
    rw [Encoder.replies, Encoder.replies]
    refine (h.perform hs hfirst).bind_eq ?_
    rintro ⟨reply, next⟩ ⟨_, next'⟩ hperform - ⟨rfl, hnext : next.SameButPadding next'⟩
    simp only [ih hnext (hs.perform hperform)]

/-! ### No faults -/

/-- Inspecting a well-formed frame never fails, and its report describes the frame. -/
theorem inspect_describes (options : EncoderOptions) {d : Detector} (hd : d.Sound) (hf : f.WellFormed) :
    ∃ damage next reference, inspect options d f = .ok (damage, next) ∧
      Detector.Describes d.settings.tileSize reference f damage ∧ next.Sound := by
  rw [inspect]
  split
  · obtain ⟨damage, next, hdetect, hdescribes, hsound, -⟩ := Detector.detect_eq_ok hd hf
    exact ⟨damage, next, _, hdetect, hdescribes, hsound⟩
  · exact ⟨.full, d, none, rfl, by simp [Detector.Describes], hd⟩

/-- A well-formed frame is answered, and the detector stays sound. -/
theorem Suited.encode_eq_ok {e : Encoder σ} (hs : e.Suited) (hd : ∀ d ∈ e.detector, d.Sound) (hf : f.WellFormed) :
    ∃ reply after, e.encode codec f = .ok (reply, after) ∧ ∀ d ∈ after.detector, d.Sound := by
  rw [Encoder.encode]
  cases hdetector : e.detector with
  | none => exact ⟨_, e, rfl, hd⟩
  | some d =>
    by_cases hsize : f.size = e.options.size
    · obtain ⟨damage, next, reference, hinspect, hdescribes, hnext⟩ := inspect_describes e.options (hd d hdetector) hf
      obtain ⟨htile, htiles⟩ := hs d hdetector
      simp only [hsize, ne_eq, not_true_eq_false, if_false, hinspect, bind, Except.bind, pure, Except.pure]
      rcases regions_eq_ok hsize htile htiles next.settings.mergeDistance hdescribes with
        ⟨hregions, -⟩ | ⟨kind, places, hregions, hplaces, -⟩
      · simp only [hregions]
        exact ⟨_, _, rfl, by rintro _ ⟨⟩; exact hnext⟩
      · obtain ⟨result, last, hrects, -⟩ := encodeRegions_madeOf codec e.options.mode hf
          (fun r hr => (hplaces r hr).1) e.codecState
        simp only [hregions, hrects]
        cases result with
        | error reason => exact ⟨_, _, rfl, by rintro _ ⟨⟩; exact hnext.invalidate⟩
        | ok rects => exact ⟨_, _, rfl, by rintro _ ⟨⟩; exact hnext⟩
    · exact ⟨_, e, if_pos hsize, hd⟩

theorem Suited.perform_eq_ok (codec : TileCodec σ) {e : Encoder σ} (hs : e.Suited) (hd : ∀ d ∈ e.detector, d.Sound)
    {request : Request} (hr : Feed.WellFormedRequest request) :
    ∃ reply after, e.perform codec request = .ok (reply, after) ∧ ∀ d ∈ after.detector, d.Sound := by
  rcases request.eq_encode_or e codec with ⟨f, rfl⟩ | ⟨reply, after, hperform, -, hdetector⟩
  · exact hs.encode_eq_ok hd hr
  · refine ⟨reply, after, hperform, fun d hafter => ?_⟩
    rcases hdetector d hafter with rfl | ⟨-, d', hd', rfl | rfl⟩
    · exact .new _
    · exact hd d hd'
    · exact (hd d' hd').invalidate

/-- Everything an encoder is asked about well-formed frames is answered. -/
theorem Suited.replies_eq_ok {requests : List Request} (hr : ∀ request ∈ requests, Feed.WellFormedRequest request)
    {e : Encoder σ} (hs : e.Suited) (hd : ∀ d ∈ e.detector, d.Sound) :
    ∃ answers, e.replies codec requests = .ok answers := by
  induction requests generalizing e with
  | nil => exact ⟨[], rfl⟩
  | cons request requests ih =>
    obtain ⟨reply, after, hperform, hafter⟩ := hs.perform_eq_ok codec hd (hr request List.mem_cons_self)
    obtain ⟨answers, hanswers⟩ := ih (fun r h => hr r (List.mem_cons_of_mem _ h)) (hs.perform hperform) hafter
    exact ⟨reply :: answers, by simp only [replies, hperform, hanswers, bind, Except.bind, pure, Except.pure]⟩

/-- **Padding is invisible.** Two new encoders that are asked the same, but for the padding of the frames, give the same
answers. They do give them, if the frames are well-formed. -/
theorem padding_is_invisible (codec : TileCodec σ) (options : EncoderOptions) (state : σ)
    {requests requests' : List Request} (hr : List.Forall₂ Request.SameButPadding requests requests') :
    replies codec requests (.new options state) = replies codec requests' (.new options state) ∧
      ((∀ request ∈ requests, Feed.WellFormedRequest request) →
        ∃ answers, replies codec requests (.new options state) = .ok answers) := by
  have hnew : (Encoder.new options state).Suited := by
    rintro d ⟨⟩
  refine ⟨SameButPadding.replies hr ⟨rfl, rfl, rfl, rfl, .none⟩ hnew, fun hwf => hnew.replies_eq_ok hwf ?_⟩
  rintro d ⟨⟩

/-- What is scribbled behind the rows of two frames is not in the updates. -/
theorem padding_is_invisible_scribble :
    let requests := [.start, .encode (Detector.lastPixel 0 0), .encode (Detector.lastPixel 5 1)]
    let requests' := [.start, .encode (Detector.lastPixel 0 7), .encode (Detector.lastPixel 5 9)]
    let e := Encoder.new ⟨⟨3, 2⟩, .rfx, true⟩ ()
    List.Forall₂ Request.SameButPadding requests requests' ∧ (∀ request ∈ requests, Feed.WellFormedRequest request) ∧
      (Detector.lastPixel 0 0).data ≠ (Detector.lastPixel 0 7).data ∧
      replies .lz4 requests e = replies .lz4 requests' e ∧ ∃ answers, replies .lz4 requests e = .ok answers := by
  intro requests requests' e
  have hblack : (Detector.lastPixel 0 0).WellFormed := by decide
  have hblue : (Detector.lastPixel 5 1).WellFormed := by decide
  have hfirst : (Detector.lastPixel 0 0).Alike (Detector.lastPixel 0 7) := ⟨by decide, rfl, by decide +kernel⟩
  have hsecond : (Detector.lastPixel 5 1).Alike (Detector.lastPixel 5 9) := ⟨by decide, rfl, by decide +kernel⟩
  have hscribble : List.Forall₂ Request.SameButPadding requests requests' :=
    .cons (.same .start) (.cons (.encode (hfirst.sameButPadding hblack (by decide)))
      (.cons (.encode (hsecond.sameButPadding hblue (by decide))) .nil))
  have hwf : ∀ request ∈ requests, Feed.WellFormedRequest request := by
    simp only [requests, List.forall_mem_cons]
    exact ⟨trivial, hblack, hblue, nofun⟩
  obtain ⟨hsame, hanswers⟩ := padding_is_invisible .lz4 ⟨⟨3, 2⟩, .rfx, true⟩ () hscribble
  exact ⟨hscribble, hwf, by decide +kernel, hsame, hanswers hwf⟩

end Encoder

end RemoteDesktop
