import RemoteDesktop.Proofs.Connection.Inbound
import RemoteDesktop.Proofs.Fidelity
import RemoteDesktop.Proofs.Wire.Parts

/-!
# Every update can be sent

The rectangles of an update lie in its picture and share no pixel, because they are tiles of one grid or
what is left of tiles after merging (`Encoder.regions_spec`); and the data of each is as long as its mode
allows (`Rect.MadeOf.sized`). That is what it takes for every rectangle to travel (`Wire.not_stuck`). All of
this needs the detector of an encoder to look at a proper grid, which it does whatever the encoder was asked
before (`Encoder.Suited.course`).

Main statement: `Encoder.emitted_updates_are_sendable`.
-/

namespace RemoteDesktop

/-- The codec packs a tile to less than a mebibyte. -/
def TileCodec.Compact {σ : Type} (codec : TileCodec σ) : Prop :=
  ∀ size pixels state data after, size.width.toNat ≤ Encoder.tileSide.toNat →
    size.height.toNat ≤ Encoder.tileSide.toNat → pixels.size = tileLength size →
    codec.encode size pixels state = (.ok data, after) → data.size < 0x10_0000

/-- An update for pictures of the given options, fit to be painted: each pixel at most once, and if the
update is a full one, each exactly once. -/
structure Update.Proper (options : EncoderOptions) (u : Update) : Prop where
  size : u.size = options.size
  mode : u.mode = options.mode
  inside : ∀ r ∈ u.rects, r.region.Inside u.size
  apart : u.rects.Pairwise fun a b => a.region.Apart b.region
  covers : u.kind = .full → ∀ x < u.size.width.toNat, ∀ y < u.size.height.toNat,
    u.rects.countP (fun r => r.region.Contains x y) = 1
  plain : u.mode = .raw → ∀ r ∈ u.rects, r.data.size = 4 * r.region.width.toNat * r.region.height.toNat
  tiles : u.mode = .rfx → ∀ r ∈ u.rects, r.region.width.toNat ≤ 64 ∧ r.region.height.toNat ≤ 64

/-! ### The length of the data -/

/-- The packing of tiles is compact. -/
theorem TileCodec.lz4_compact : lz4.Compact := by
  intro size pixels state data after hwidth hheight hpixels h
  have hside : Encoder.tileSide.toNat = 64 := rfl
  have harea : size.width.toNat * size.height.toNat ≤ 64 * 64 := Nat.mul_le_mul (by omega) (by omega)
  have hpack := Lz4.size_write_le (Lz4.plan_fits pixels)
  simp only [lz4, packTile, if_pos hpixels, Prod.mk.injEq, Except.ok.injEq] at h
  rw [← h.1, Lz4.pack]
  rw [hpixels, tileLength, bytesPerPixel] at hpack
  omega

/-- The data of a rectangle is as long as its mode allows. -/
def Rect.Sized (mode : Mode) (rect : Rect) : Prop :=
  match mode with
  | .raw => rect.data.size = 4 * rect.region.width.toNat * rect.region.height.toNat
  | .rfx => rect.data.size < 0x10_0000

theorem Rect.MadeOf.plain {σ : Type} {codec : TileCodec σ} {f : Frame} {rect : Rect} (h : rect.MadeOf codec .raw f)
    (hf : f.WellFormed) (hr : rect.region.Inside f.size) :
    rect.data.size = 4 * rect.region.width.toNat * rect.region.height.toNat := by
  obtain ⟨pixels, hpack, hdata⟩ := h
  obtain ⟨packed, hpacked, hsize, -⟩ := hf.pack_eq_ok hr
  obtain rfl : pixels = packed := Except.ok.inj (hpack.symm.trans hpacked)
  rw [show rect.data = pixels from hdata, hsize, Region.area, bytesPerPixel, Nat.mul_comm, Nat.mul_assoc]

theorem Rect.MadeOf.sized {σ : Type} {codec : TileCodec σ} (hc : codec.Compact) {mode : Mode} {f : Frame}
    {rect : Rect} (h : rect.MadeOf codec mode f) (hf : f.WellFormed) (hr : rect.region.Inside f.size)
    (hs : Encoder.Sendable mode rect.region) : rect.Sized mode := by
  cases mode with
  | raw => exact h.plain hf hr
  | rfx =>
    obtain ⟨pixels, hpack, before, after, henc⟩ := h
    obtain ⟨packed, hpacked, hsize, -⟩ := hf.pack_eq_ok hr
    obtain rfl : pixels = packed := Except.ok.inj (hpack.symm.trans hpacked)
    obtain ⟨hwidth, hheight⟩ := hs rfl
    exact hc ⟨rect.region.width, rect.region.height⟩ pixels before rect.data after hwidth hheight hsize henc

/-! ### Sending -/

namespace Wire

/-- Plain pixels of rows that fit a part can be cut, and compact tiles need not be. -/
theorem not_stuck {mode : Mode} {rect : Rect} {size : Size} (hinside : rect.region.Inside size)
    (hsized : rect.Sized mode) (hwidth : 4 * size.width.toNat + 32 ≤ partBudget) : ¬ Stuck mode rect := by
  rw [stuck_iff]
  rintro ⟨hlarge, hwhy⟩
  cases mode with
  | raw =>
    have hdata : rect.data.size = 4 * rect.region.width.toNat * rect.region.height.toNat := hsized
    have hright := hinside.1
    rw [Region.right] at hright
    rcases hwhy with h | h | h | h
    · exact h rfl
    · rw [h, UInt32.toNat_zero, Nat.mul_zero, Nat.zero_mul] at hdata
      omega
    · omega
    · exact h hdata
  | rfx =>
    have hdata : rect.data.size < 0x10_0000 := hsized
    have hroom : 0x10_0000 + 32 ≤ partBudget := by decide
    omega

end Wire

/-- An update whose rectangles can travel is sent. -/
theorem Connection.updateBytes_eq_ok {u : Update} (hinside : ∀ r ∈ u.rects, r.region.Inside u.size)
    (hfree : ∀ r ∈ u.rects, ¬ Wire.Stuck u.mode r) :
    ∃ payloads bytes, Wire.encodeUpdate u = .ok (.ok payloads) ∧ updateBytes u = .ok (.ok bytes) := by
  have hfits : ∀ r ∈ u.rects, r.region.y.toNat + r.region.height.toNat < 2 ^ 32 := fun r hr => (hinside r hr).fits.2
  rcases Wire.encodeUpdate_eq_ok hfits with ⟨⟨r, hr, hstuck⟩, -⟩ | ⟨-, payloads, hpayloads, htravels⟩
  · exact absurd hstuck (hfree r hr)
  · exact ⟨payloads, _, hpayloads, updateBytes_of_encodeUpdate hpayloads htravels.size_le⟩

namespace Encoder

variable {σ : Type}

/-! ### What the detector looks at -/

/-- What is not a frame to encode is always answered, and never with an update. A detector is then a fresh one, or the
one before, which may have been invalidated. -/
theorem Request.eq_encode_or (request : Request) (e : Encoder σ) (codec : TileCodec σ) :
    (∃ f, request = .encode f) ∨ ∃ reply after, e.perform codec request = .ok (reply, after) ∧
      (∀ u, reply ≠ .ok (some u)) ∧
      ∀ d ∈ after.detector, d = after.freshDetector ∨
        after.options = e.options ∧ ∃ d' ∈ e.detector, d = d' ∨ d = d'.invalidate := by
  cases request with
  | encode f => exact Or.inl ⟨f, rfl⟩
  | start =>
    by_cases hrun : e.isRunning = true
    · exact Or.inr ⟨.error .alreadyRunning, e, by simp only [perform, Encoder.start, hrun, if_true], by simp,
        fun d hd => Or.inr ⟨rfl, d, hd, Or.inl rfl⟩⟩
    · refine Or.inr ⟨.ok none, _, by simp only [perform, Encoder.start, hrun]; rfl, by simp, ?_⟩
      rintro d ⟨⟩
      exact Or.inl rfl
  | stop =>
    refine Or.inr ⟨_, _, rfl, by simp, ?_⟩
    rintro d ⟨⟩
  | setOptions options =>
    refine Or.inr ⟨_, _, rfl, by simp, fun d hd => Or.inl ?_⟩
    obtain ⟨-, -, rfl⟩ := Option.map_eq_some_iff.1 hd
    rfl
  | setPixelTile side => exact Or.inr ⟨_, _, rfl, by simp, fun d hd => Or.inr ⟨rfl, d, hd, Or.inl rfl⟩⟩
  | setNextSequence sequence => exact Or.inr ⟨_, _, rfl, by simp, fun d hd => Or.inr ⟨rfl, d, hd, Or.inl rfl⟩⟩
  | invalidate =>
    refine Or.inr ⟨_, _, rfl, by simp, fun d hd => Or.inr ⟨rfl, ?_⟩⟩
    obtain ⟨d', hd', rfl⟩ := Option.map_eq_some_iff.1 hd
    exact ⟨d', hd', Or.inr rfl⟩

/-- The detector looks at tiles that have pixels, and that the codec takes. -/
structure Suits (options : EncoderOptions) (d : Detector) : Prop where
  tile : 0 < d.settings.tileSize.toNat
  tiles : options.mode = .rfx → d.settings.tileSize = tileSide

/-- If the encoder runs, its detector suits its options. -/
def Suited (e : Encoder σ) : Prop := ∀ d ∈ e.detector, Suits e.options d

theorem suits_freshDetector (e : Encoder σ) : Suits e.options e.freshDetector := by
  constructor
  · exact (Detector.Sound.new _).tile
  · intro hmode
    rw [freshDetector, if_pos hmode]
    rfl

theorem inspect_settings {options : EncoderOptions} {d d' : Detector} {f : Frame} {damage : Damage}
    (h : inspect options d f = .ok (damage, d')) : d'.settings = d.settings ∧
      ∀ tiles, damage = .partly tiles → tiles.Sublist (Region.grid d.settings.tileSize f.size) := by
  rw [inspect] at h
  split at h
  · exact Detector.detect_settings h
  · cases h
    refine ⟨rfl, fun tiles htiles => ?_⟩
    cases htiles

namespace Suited

variable {codec : TileCodec σ} {e after : Encoder σ}

/-- A detector with the settings of one that suits suits too. -/
theorem of_settings (h : e.Suited) {d d' : Detector} (hd : e.detector = some d) (hs : d'.settings = d.settings) :
    Suits e.options d' := by
  obtain ⟨htile, htiles⟩ := h d hd
  exact ⟨hs ▸ htile, hs ▸ htiles⟩

theorem encode (h : e.Suited) {f : Frame} {reply : Reply} (henc : e.encode codec f = .ok (reply, after)) :
    after.Suited := by
  cases gives_of_encode henc with
  | refusal => exact h
  | nothing hd hinspect _ | failure _ _ hd hinspect | update _ _ hd hinspect _ _ =>
    rintro _ ⟨⟩
    exact h.of_settings hd (inspect_settings hinspect).1

/-- Whatever the encoder is asked, its detector suits it. -/
theorem perform (h : e.Suited) {request : Request} {reply : Reply}
    (hperform : e.perform codec request = .ok (reply, after)) : after.Suited := by
  rcases request.eq_encode_or e codec with ⟨f, rfl⟩ | ⟨_, _, hdirect, -, hdetector⟩
  · exact h.encode hperform
  · obtain ⟨⟩ := hperform.symm.trans hdirect
    intro d hd
    rcases hdetector d hd with rfl | ⟨hoptions, d', hd', rfl | rfl⟩
    · exact suits_freshDetector after
    · exact hoptions ▸ h d hd'
    · exact hoptions ▸ h.of_settings hd' rfl

end Suited

/-- The encoder after it was asked one thing after the other. -/
def course (codec : TileCodec σ) : List Request → Encoder σ → Checked (Encoder σ)
  | [], e => .ok e
  | request :: requests, e => do
    let (_, e) ← e.perform codec request
    course codec requests e

theorem Suited.course {codec : TileCodec σ} {requests : List Request} {e after : Encoder σ} (h : e.Suited)
    (hcourse : Encoder.course codec requests e = .ok after) : after.Suited := by
  induction requests generalizing e with
  | nil =>
    cases hcourse
    exact h
  | cons request requests ih =>
    obtain ⟨_, hperform, hrest⟩ := bind_eq_ok_iff.1 hcourse
    exact ih (h.perform hperform) hrest

/-! ### The regions of an update -/

/-- A full update is made of regions that share no pixel. -/
theorem fullRegions_pairwise_apart (options : EncoderOptions) : (fullRegions options).Pairwise Region.Apart := by
  unfold fullRegions
  cases options.mode with
  | raw => exact List.pairwise_singleton _ _
  | rfx => exact Region.grid_pairwise_apart _ _ (by decide)

/-- The regions of an update lie in the frame, can be taken by the codec and share no pixel. Those of a full
update hold every pixel. -/
theorem regions_spec {options : EncoderOptions} {f : Frame} (hsize : f.size = options.size) {d d' : Detector}
    (hd : Suits options d) {damage : Damage} (hinspect : inspect options d f = .ok (damage, d')) {distance : UInt32}
    {kind : UpdateKind} {places : List Region} (h : regions options distance damage = .ok (some (kind, places))) :
    (∀ r ∈ places, r.Inside f.size ∧ Sendable options.mode r) ∧ places.Pairwise Region.Apart ∧
      (kind = .full → ∀ x < f.width.toNat, ∀ y < f.height.toNat, ∃ r ∈ places, r.Contains x y) := by
  cases damage with
  | unchanged => cases h
  | full =>
    cases h
    obtain ⟨hregions, hreach⟩ := fullRegions_reach none f hsize
    exact ⟨hregions, fullRegions_pairwise_apart options, fun _ => hreach⟩
  | partly tiles =>
    have hsub := (inspect_settings hinspect).2 tiles rfl
    have hinside : ∀ t ∈ tiles, t.Inside f.size := fun t ht => Region.inside_of_mem_grid hd.tile (hsub.subset ht)
    unfold regions at h
    cases hmode : options.mode with
    | raw =>
      obtain ⟨out, hout, hclusters⟩ := Region.merge_clusters distance fun t ht => (hinside t ht).fits
      simp only [hmode, hout, bind, Except.bind] at h
      cases h
      have hwithin := hclusters.inside hinside
      refine ⟨fun r hr => ⟨hwithin r hr, by simp [Sendable]⟩, ?_, fun hk => nomatch hk⟩
      refine (Region.merge_pairwise_isNear hout).imp_of_mem fun {a b} ha hb hnear => ?_
      exact Region.apart_of_isNear (hwithin a ha).fits (hwithin b hb).fits hnear
    | rfx =>
      simp only [hmode] at h
      cases h
      refine ⟨fun r hr => ⟨hinside r hr, fun _ => ?_⟩, ?_, fun hk => nomatch hk⟩
      · exact hd.tiles hmode ▸ Region.le_side_of_mem_grid hd.tile (hsub.subset hr)
      · exact (Region.grid_pairwise_apart _ _ hd.tile).sublist hsub

/-! ### Any update -/

/-- An update of an encoder whose detector suits it is proper, and its rectangles are made of the frame. -/
theorem Suited.proper {codec : TileCodec σ} {e after : Encoder σ} (h : e.Suited) {f : Frame} (hf : f.WellFormed)
    {u : Update} (hencode : e.encode codec f = .ok (.ok (some u), after)) :
    u.Proper e.options ∧ f.size = u.size ∧
      ∀ rect ∈ u.rects, Sendable u.mode rect.region ∧ rect.MadeOf codec u.mode f := by
  cases gives_of_encode hencode with
  | @update d d' damage kind places rects codecState hsize hd hinspect hregions hrects =>
    obtain ⟨hplaces, hapart, hfull⟩ := regions_spec hsize (h d hd) hinspect hregions
    obtain ⟨result, last, hresult, hmade, -⟩ := encodeRegions_madeOf codec e.options.mode hf
      (fun r hr => (hplaces r hr).1) e.codecState
    rw [hrects] at hresult
    cases hresult
    obtain ⟨hmap, hall⟩ := hmade rects rfl
    have hmem : ∀ rect ∈ rects, rect.region.Inside f.size ∧ Sendable e.options.mode rect.region := by
      intro rect hrect
      exact hplaces _ (hmap ▸ List.mem_map_of_mem hrect)
    have hrectsApart : rects.Pairwise fun a b => a.region.Apart b.region := by
      rw [← hmap, List.pairwise_map] at hapart
      exact hapart
    refine ⟨⟨rfl, rfl, fun r hr => hsize ▸ (hmem r hr).1, hrectsApart, ?_, ?_, ?_⟩, hsize,
      fun rect hrect => ⟨(hmem rect hrect).2, hall rect hrect⟩⟩
    · intro hkind x hx y hy
      have hcount := Region.countP_contains_of_apart hapart
        (hfull hkind x (by rw [← hsize] at hx; exact hx) y (by rw [← hsize] at hy; exact hy))
      rwa [← hmap, List.countP_map] at hcount
    · intro hmode rect hrect
      have hrect' := hall rect hrect
      rw [show e.options.mode = .raw from hmode] at hrect'
      exact hrect'.plain hf (hmem rect hrect).1
    · intro hmode rect hrect
      exact (hmem rect hrect).2 hmode

/-- **Every update can be sent.** Whatever an encoder was asked before, an update that it makes of a
well-formed frame is proper for the options in force. If a row of pixels fits a part and the codec is compact,
the update becomes payloads, and they become bytes for the connection. -/
theorem emitted_updates_are_sendable {codec : TileCodec σ} {options : EncoderOptions} {state : σ}
    {requests : List Request} {e after : Encoder σ} (hcourse : course codec requests (.new options state) = .ok e)
    {f : Frame} (hf : f.WellFormed) {u : Update} (hencode : e.encode codec f = .ok (.ok (some u), after)) :
    u.Proper e.options ∧
      (codec.Compact → 4 * e.options.size.width.toNat + 32 ≤ Wire.partBudget →
        ∃ payloads bytes, Wire.encodeUpdate u = .ok (.ok payloads) ∧ Connection.updateBytes u = .ok (.ok bytes)) := by
  have hnew : (Encoder.new options state).Suited := by
    rintro d ⟨⟩
  obtain ⟨hproper, hsize, hrects⟩ := (hnew.course hcourse).proper hf hencode
  refine ⟨hproper, fun hc hwidth => Connection.updateBytes_eq_ok hproper.inside fun rect hrect => ?_⟩
  obtain ⟨hsend, hmade⟩ := hrects rect hrect
  have hinside := hproper.inside rect hrect
  rw [← hproper.size] at hwidth
  exact Wire.not_stuck hinside (hmade.sized hc hf (hsize ▸ hinside) hsend) hwidth

/-- A pixel that changes is sent in a tile. -/
theorem emitted_updates_are_sendable_shade :
    ∃ e after u, course .lz4 [.start, .encode (Feed.shadeFrame 0)] (.new ⟨⟨2, 1⟩, .rfx, true⟩ ()) = .ok e ∧
      (Feed.shadeFrame 9).WellFormed ∧ e.encode .lz4 (Feed.shadeFrame 9) = .ok (.ok (some u), after) ∧
      u.kind = .diff ∧ u.rects.length = 1 ∧ u.Proper e.options ∧ TileCodec.lz4.Compact ∧
      4 * e.options.size.width.toNat + 32 ≤ Wire.partBudget ∧
      ∃ payloads bytes, Wire.encodeUpdate u = .ok (.ok payloads) ∧ Connection.updateBytes u = .ok (.ok bytes) := by
  have hf : (Feed.shadeFrame 9).WellFormed := ⟨rfl, show 2 * 4 ≤ 12 by decide⟩
  have hcourse : course .lz4 [.start, .encode (Feed.shadeFrame 0)] (.new ⟨⟨2, 1⟩, .rfx, true⟩ ()) = .ok _ := rfl
  obtain ⟨hproper, hsent⟩ := emitted_updates_are_sendable hcourse hf rfl
  have hwidth : 4 * (2 : UInt32).toNat + 32 ≤ Wire.partBudget := by decide
  exact ⟨_, _, _, hcourse, hf, rfl, rfl, rfl, hproper, TileCodec.lz4_compact, hwidth, hsent TileCodec.lz4_compact hwidth⟩

end Encoder

end RemoteDesktop
