import Mathlib.Data.List.Forall2
import RemoteDesktop.Encoder
import RemoteDesktop.Proofs.Frame
import RemoteDesktop.Proofs.Grid

/-!
# Encoding regions and painting them

What comes of encoding one frame (`Encoder.gives_of_encode`). The rectangles that an encoder makes of
regions of a frame hold the packed pixels of the regions (`Encoder.encodeRegions_madeOf`), and so they show
the frame there: what the viewer unpacks and paints is what the frame has in the region
(`Encoder.encodeRegions_eq_ok`). Painting such rectangles never makes a pixel wrong and makes those in the
regions right (`Picture.paintAll_eq_ok`).
-/

namespace RemoteDesktop

/-- The rectangle holds the packed pixels of its region, as the mode writes them. -/
def Rect.MadeOf {σ : Type} (codec : TileCodec σ) (mode : Mode) (f : Frame) (rect : Rect) : Prop :=
  ∃ pixels, f.pack rect.region = .ok pixels ∧
    match mode with
    | .raw => rect.data = pixels
    | .rfx => ∃ before after,
      codec.encode ⟨rect.region.width, rect.region.height⟩ pixels before = (.ok rect.data, after)

/-- What the viewer paints for the rectangle is what the frame has there. -/
def Rect.Depicts (mode : Mode) (f : Frame) (rect : Rect) : Prop :=
  ∃ pixels, rect.pixels mode = .ok pixels ∧
    ∀ x y, rect.region.Contains x y → Picture.colourIn rect.region pixels x y = f.pixel x y

/-- Regions that a tile codec takes: in mode `rfx`, at most a tile wide and high. -/
def Encoder.Sendable (mode : Mode) (r : Region) : Prop :=
  mode = .rfx → r.width.toNat ≤ tileSide.toNat ∧ r.height.toNat ≤ tileSide.toNat

namespace Picture

/-- Painting rectangles of a frame keeps what shows the frame already, and adds what they depict. -/
theorem paintAll_eq_ok {mode : Mode} {f : Frame} {rects : List Rect} (h : ∀ r ∈ rects, r.Depicts mode f)
    (p : Picture) : ∃ q, paintAll mode rects p = .ok q ∧ q.size = p.size ∧ ∀ x y,
      (p.pixel x y = f.pixel x y ∨ ∃ r ∈ rects, r.region.Contains x y) → q.pixel x y = f.pixel x y := by
  induction rects generalizing p with
  | nil => exact ⟨p, rfl, rfl, by simp⟩
  | cons r rects ih =>
    obtain ⟨pixels, hpixels, hcolour⟩ := h r List.mem_cons_self
    obtain ⟨q, hq, hsize, hshow⟩ := ih (fun s hs => h s (List.mem_cons_of_mem _ hs)) (p.paint r.region pixels)
    refine ⟨q, by simp [paintAll, hpixels, hq, bind, Except.bind], hsize, fun x y hxy => hshow x y ?_⟩
    by_cases hin : r.region.Contains x y
    · exact Or.inl (by simpa [paint, hin] using hcolour x y hin)
    · rcases hxy with hold | ⟨s, hs, hsxy⟩
      · exact Or.inl (by simpa [paint, hin] using hold)
      · rcases List.mem_cons.1 hs with rfl | hs
        · exact absurd hsxy hin
        · exact Or.inr ⟨s, hs, hsxy⟩

end Picture

namespace Encoder

variable {σ : Type} {codec : TileCodec σ} {mode : Mode} {f : Frame}

/-! ### One frame -/

/-- What may come of encoding a frame, with the encoder after it. -/
inductive Gives (codec : TileCodec σ) (e : Encoder σ) (f : Frame) :
    Except EncoderError (Option Update) → Encoder σ → Prop where
  /-- The encoder has stopped, or the frame has another size. -/
  | refusal (reason : EncoderError) : Gives codec e f (.error reason) e
  /-- There is nothing to send. -/
  | nothing {d d' : Detector} {damage : Damage} :
    e.detector = some d → inspect e.options d f = .ok (damage, d') →
      regions e.options d'.settings.mergeDistance damage = .ok none →
      Gives codec e f (.ok none) { e with detector := some d' }
  /-- A tile could not be compressed. -/
  | failure {d d' : Detector} {damage : Damage} (reason : String) (codecState : σ) :
    e.detector = some d → inspect e.options d f = .ok (damage, d') →
      Gives codec e f (.error (.codec reason)) { e with detector := some d'.invalidate, codecState }
  | update {d d' : Detector} {damage : Damage} {kind : UpdateKind} {places : List Region} {rects : List Rect}
      (codecState : σ) :
    f.size = e.options.size → e.detector = some d → inspect e.options d f = .ok (damage, d') →
      regions e.options d'.settings.mergeDistance damage = .ok (some (kind, places)) →
      encodeRegions codec e.options.mode f places e.codecState = .ok (.ok rects, codecState) →
      Gives codec e f
        (.ok (some { sequence := e.nextSequence, size := e.options.size, mode := e.options.mode, kind, rects }))
        { e with detector := some d', nextSequence := e.nextSequence + 1, codecState }

theorem gives_of_encode {e after : Encoder σ} {result : Except EncoderError (Option Update)}
    (h : e.encode codec f = .ok (result, after)) : Gives codec e f result after := by
  rw [encode] at h
  cases hdetector : e.detector with
  | none =>
    rw [hdetector] at h
    cases h
    exact .refusal _
  | some d =>
    simp only [hdetector] at h
    split at h
    next =>
      cases h
      exact .refusal _
    next hsize =>
      rw [ne_eq, not_not] at hsize
      obtain ⟨⟨damage, d'⟩, hinspect, h⟩ := bind_eq_ok_iff.1 h
      obtain ⟨found, hregions, h⟩ := bind_eq_ok_iff.1 h
      cases found with
      | none =>
        cases h
        exact .nothing hdetector hinspect hregions
      | some pair =>
        obtain ⟨kind, places⟩ := pair
        obtain ⟨⟨rects, codecState⟩, hencode, h⟩ := bind_eq_ok_iff.1 h
        cases rects with
        | error reason =>
          cases h
          exact .failure reason codecState hdetector hinspect
        | ok rects =>
          cases h
          exact .update codecState hsize hdetector hinspect hregions hencode

/-- A detector that has been told to reports everything. -/
theorem inspect_of_invalidated {options : EncoderOptions} {d d' : Detector} {f : Frame} {damage : Damage}
    (hd : d.invalidated = true) (h : inspect options d f = .ok (damage, d')) : damage = .full := by
  rw [inspect] at h
  split at h
  · rw [Detector.detect] at h
    simp only [hd, true_or, if_true] at h
    cases h
    rfl
  · cases h
    rfl

/-! ### The regions of a frame -/

/-- A region inside a frame can be encoded; only the codec can refuse. -/
theorem encodeRegion_madeOf (codec : TileCodec σ) (mode : Mode) (hf : f.WellFormed) {r : Region} (hr : r.Inside f.size) (state : σ) :
    ∃ result after, encodeRegion codec mode f state r = .ok (result, after) ∧
      (∀ rect, result = .ok rect → rect.region = r ∧ rect.MadeOf codec mode f) ∧
      (mode = .raw → ∃ rect, result = .ok rect) := by
  obtain ⟨pixels, hpack, -, -⟩ := hf.pack_eq_ok hr
  cases mode with
  | raw =>
    refine ⟨.ok ⟨r, pixels⟩, state, by simp [encodeRegion, hpack, bind, Except.bind, pure, Except.pure], ?_,
      fun _ => ⟨_, rfl⟩⟩
    rintro rect ⟨⟩
    exact ⟨rfl, pixels, hpack, rfl⟩
  | rfx =>
    simp only [encodeRegion, hpack, bind, Except.bind, pure, Except.pure]
    cases henc : codec.encode ⟨r.width, r.height⟩ pixels state with
    | mk packed after =>
      cases packed with
      | error reason => exact ⟨.error reason, after, rfl, by simp, by simp⟩
      | ok data =>
        refine ⟨.ok ⟨r, data⟩, after, rfl, ?_, by simp⟩
        rintro rect ⟨⟩
        exact ⟨rfl, pixels, hpack, state, after, henc⟩

/-- Regions inside a frame can be encoded one after the other. -/
theorem encodeRegions_madeOf (codec : TileCodec σ) (mode : Mode) (hf : f.WellFormed) {regions : List Region}
    (hr : ∀ r ∈ regions, r.Inside f.size) (state : σ) :
    ∃ result after, encodeRegions codec mode f regions state = .ok (result, after) ∧
      (∀ rects, result = .ok rects →
        rects.map (·.region) = regions ∧ ∀ rect ∈ rects, rect.MadeOf codec mode f) ∧
      (mode = .raw → ∃ rects, result = .ok rects) := by
  induction regions generalizing state with
  | nil => exact ⟨.ok [], state, rfl, by rintro rects ⟨⟩; simp, fun _ => ⟨_, rfl⟩⟩
  | cons r regions ih =>
    obtain ⟨result, after, hfirst, hmade, hraw⟩ :=
      encodeRegion_madeOf codec mode hf (hr r List.mem_cons_self) state
    cases result with
    | error reason =>
      refine ⟨.error reason, after, by simp [encodeRegions, hfirst, bind, Except.bind, pure, Except.pure], by simp,
        fun hm => ?_⟩
      obtain ⟨rect, hrect⟩ := hraw hm
      cases hrect
    | ok rect =>
      obtain ⟨hregion, hrect⟩ := hmade rect rfl
      obtain ⟨rest, last, hrest, hmadeRest, hrawRest⟩ := ih (fun s h => hr s (List.mem_cons_of_mem _ h)) after
      simp only [encodeRegions, hfirst, hrest, bind, Except.bind, pure, Except.pure]
      cases rest with
      | error reason =>
        refine ⟨.error reason, last, rfl, by simp, fun hm => ?_⟩
        obtain ⟨rects, hrects⟩ := hrawRest hm
        cases hrects
      | ok rects =>
        obtain ⟨hmap, hall⟩ := hmadeRest rects rfl
        refine ⟨.ok (rect :: rects), last, rfl, ?_, fun _ => ⟨_, rfl⟩⟩
        rintro _ ⟨⟩
        exact ⟨by rw [List.map_cons, hregion, hmap], List.forall_mem_cons.2 ⟨hrect, hall⟩⟩

/-- Rectangles are made of the regions, one of each. -/
theorem encodeRegions_places {regions : List Region} {state after : σ} {rects : List Rect}
    (h : encodeRegions codec mode f regions state = .ok (.ok rects, after)) : rects.map (·.region) = regions := by
  induction regions generalizing state rects with
  | nil =>
    cases h
    rfl
  | cons r regions ih =>
    obtain ⟨⟨result, middle⟩, hfirst, h⟩ := bind_eq_ok_iff.1 h
    cases result with
    | error reason => cases h
    | ok rect =>
      obtain ⟨⟨rest, last⟩, hrest, h⟩ := bind_eq_ok_iff.1 h
      cases rest with
      | error reason => cases h
      | ok rest =>
        cases h
        have hregion : rect.region = r := by
          obtain ⟨pixels, -, hencode⟩ := bind_eq_ok_iff.1 hfirst
          cases mode with
          | raw =>
            cases hencode
            rfl
          | rfx =>
            simp only at hencode
            split at hencode <;> cases hencode
            rfl
        rw [List.map_cons, hregion, ih hrest]

/-- A rectangle made of a frame depicts it, if its codec is faithful. -/
theorem depicts_of_madeOf (hc : codec.Faithful) (hf : f.WellFormed) {rect : Rect} (hr : rect.region.Inside f.size)
    (hs : Sendable mode rect.region) (h : rect.MadeOf codec mode f) : rect.Depicts mode f := by
  obtain ⟨pixels, hpack, hdata⟩ := h
  obtain ⟨packed, hpacked, hsize, hcolour⟩ := hf.pack_eq_ok hr
  obtain rfl : pixels = packed := Except.ok.inj (hpack.symm.trans hpacked)
  cases mode with
  | raw => exact ⟨pixels, congrArg Except.ok hdata, hcolour⟩
  | rfx =>
    obtain ⟨before, after, henc⟩ := hdata
    obtain ⟨hw, hh⟩ := hs rfl
    have hside : tileSide.toNat = 64 := rfl
    have htile : TileCodec.tileLength ⟨rect.region.width, rect.region.height⟩ < 2 ^ 32 := by
      have harea : rect.region.width.toNat * rect.region.height.toNat ≤ 64 * 64 :=
        Nat.mul_le_mul (by omega) (by omega)
      simp only [TileCodec.tileLength, bytesPerPixel]
      omega
    exact ⟨pixels, hc ⟨rect.region.width, rect.region.height⟩ pixels before rect.data after hsize htile henc, hcolour⟩

/-- Regions inside a frame are encoded to rectangles that depict it there. -/
theorem encodeRegions_eq_ok (hc : codec.Faithful) (hf : f.WellFormed) {regions : List Region}
    (hr : ∀ r ∈ regions, r.Inside f.size) (hs : ∀ r ∈ regions, Sendable mode r) (state : σ) :
    ∃ result after, encodeRegions codec mode f regions state = .ok (result, after) ∧
      (∀ rects, result = .ok rects →
        rects.map (·.region) = regions ∧ ∀ rect ∈ rects, rect.Depicts mode f) ∧
      (mode = .raw → ∃ rects, result = .ok rects) := by
  obtain ⟨result, after, hencode, hmade, hraw⟩ := encodeRegions_madeOf codec mode hf hr state
  refine ⟨result, after, hencode, fun rects hrects => ?_, hraw⟩
  obtain ⟨hmap, hall⟩ := hmade rects hrects
  refine ⟨hmap, fun rect hrect => ?_⟩
  have hregion : rect.region ∈ regions := hmap ▸ List.mem_map_of_mem hrect
  exact depicts_of_madeOf hc hf (hr _ hregion) (hs _ hregion) (hall rect hrect)

end Encoder

end RemoteDesktop
