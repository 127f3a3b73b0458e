import Mathlib.Data.List.Forall2
import RemoteDesktop.Proofs.Wire.Bands

/-!
# Updates survive being split

What `encodeUpdate` sends for an update, and what an `Assembler` makes of it. The rectangles travel as they
are, or in bands (`Carries`); no part is filled beyond its budget (`fill_spec`), and 32 bytes are more than
any rectangle takes beside its data (`size_putRect_le`), so that every part is a frame; and the assembler
joins what was parted (`receive_sent`). Main statement: `encodeUpdate_travels`.
-/

namespace RemoteDesktop.Wire

/-! ### The rectangles that travel -/

/-- What travels in place of a rectangle: itself, if it fits a part, and else its bands. -/
def Carries (r : Rect) (cut : List Rect) : Prop :=
  (cost r ≤ partBudget → cut = [r]) ∧ (partBudget < cost r → RowBands r cut)

/-- A rectangle that cannot travel. -/
def Stuck (mode : Mode) (r : Rect) : Prop := partBudget < cost r ∧ ¬ Cuttable mode r

/-- The first rectangle cannot travel, or it does so in pieces that fit a part. -/
theorem pieces_cons {mode : Mode} {r : Rect} (hfits : r.region.y.toNat + r.region.height.toNat < 2 ^ 32)
    (rects : List Rect) :
    (Stuck mode r ∧ pieces mode (r :: rects) = .ok none) ∨
      (¬ Stuck mode r ∧ ∃ views, pieces mode (r :: rects) = (do return (← pieces mode rects).map (views ++ ·)) ∧
        Carries r (views.map (·.owned)) ∧ ∀ v ∈ views, v.data.length + rectOverhead ≤ partBudget) := by
  by_cases hsmall : cost r ≤ partBudget
  · refine Or.inr ⟨fun h => Nat.not_lt.2 hsmall h.1, [.whole r], by rw [pieces, if_pos hsmall]; rfl,
      ⟨fun _ => ?_, fun h => absurd hsmall (Nat.not_le.2 h)⟩, fun v hv => ?_⟩
    · rw [List.map_singleton, RectView.owned_whole]
    · obtain rfl := List.mem_singleton.1 hv
      rwa [← Stretch.size_bytes, RectView.whole, Stretch.bytes_all]
  · by_cases hcut : Cuttable mode r
    · obtain ⟨views, hbands, hrow, hroom⟩ := bands_eq_ok hcut hfits
      exact Or.inr ⟨fun h => h.2 hcut, views, by rw [pieces, if_neg hsmall, if_pos hcut, hbands]; rfl,
        ⟨fun h => absurd h hsmall, fun _ => hrow⟩, hroom⟩
    · exact Or.inl ⟨⟨Nat.not_le.1 hsmall, hcut⟩, by rw [pieces, if_neg hsmall, if_neg hcut]; rfl⟩

/-- Either a rectangle cannot travel, or all of them do, and what travels fits a part each. -/
theorem pieces_eq_ok {mode : Mode} {rects : List Rect}
    (hfits : ∀ r ∈ rects, r.region.y.toNat + r.region.height.toNat < 2 ^ 32) :
    ((∃ r ∈ rects, Stuck mode r) ∧ pieces mode rects = .ok none) ∨
      ((∀ r ∈ rects, ¬ Stuck mode r) ∧ ∃ views cuts, pieces mode rects = .ok (some views) ∧
        List.Forall₂ Carries rects cuts ∧ views.map (·.owned) = cuts.flatten ∧
        ∀ v ∈ views, v.data.length + rectOverhead ≤ partBudget) := by
  induction rects with
  | nil => exact Or.inr ⟨by simp, [], [], rfl, .nil, rfl, by simp⟩
  | cons r rects ih =>
    rcases pieces_cons (hfits r List.mem_cons_self) rects with ⟨hstuck, hpieces⟩ | ⟨hr, first, hpieces, hcarries, hroom⟩
    · exact Or.inl ⟨⟨r, List.mem_cons_self, hstuck⟩, hpieces⟩
    rcases ih fun s hs => hfits s (List.mem_cons_of_mem r hs) with
      ⟨⟨s, hs, hstuck⟩, hnone⟩ | ⟨hfree, views, cuts, hsome, hcuts, howned, hroom'⟩
    · exact Or.inl ⟨⟨s, List.mem_cons_of_mem r hs, hstuck⟩, by rw [hpieces, hnone]; rfl⟩
    · refine Or.inr ⟨List.forall_mem_cons.2 ⟨hr, hfree⟩, first ++ views, first.map (·.owned) :: cuts,
        by rw [hpieces, hsome]; rfl, .cons hcarries hcuts, by rw [List.map_append, howned, List.flatten_cons], ?_⟩
      exact List.forall_mem_append.2 ⟨hroom, hroom'⟩

/-! ### Filling parts -/

/-- What rectangles count against the budget of a part. -/
def load (rects : List RectView) : Nat := (rects.map fun r => r.data.length + rectOverhead).sum

/-- Filling keeps the rectangles in order, and no part takes more than its budget. -/
theorem fill_spec {views : List RectView} (hviews : ∀ v ∈ views, v.data.length + rectOverhead ≤ partBudget)
    {used : Nat} (hused : used ≤ partBudget) :
    ∃ first others, fill used views = (first, others) ∧ first ++ others.flatten = views ∧
      used + load first ≤ partBudget ∧ ∀ part ∈ others, load part ≤ partBudget := by
  induction views generalizing used with
  | nil => exact ⟨[], [], rfl, rfl, hused, by simp⟩
  | cons v views ih =>
    have hv := hviews v List.mem_cons_self
    have hrest : ∀ w ∈ views, w.data.length + rectOverhead ≤ partBudget := fun w hw =>
      hviews w (List.mem_cons_of_mem v hw)
    by_cases hfull : 0 < used ∧ partBudget < used + (v.data.length + rectOverhead)
    · obtain ⟨first, others, hfill, hflat, hload, hothers⟩ := ih hrest hv
      refine ⟨[], (v :: first) :: others, by rw [fill, if_pos hfull, hfill], by rw [← hflat]; rfl, hused, ?_⟩
      rintro part (⟨⟩ | ⟨_, hpart⟩)
      · rwa [load, List.map_cons, List.sum_cons]
      · exact hothers part hpart
    · obtain ⟨first, others, hfill, hflat, hload, hothers⟩ :=
        ih hrest (show used + (v.data.length + rectOverhead) ≤ partBudget by omega)
      refine ⟨v :: first, others, by rw [fill, if_neg hfull, hfill], by rw [← hflat]; rfl, ?_, hothers⟩
      rw [load, List.map_cons, List.sum_cons, ← Nat.add_assoc]
      exact hload

/-! ### The length of a part -/

theorem size_putNat_of_lt {n : Nat} (h : n < 2 ^ 32) : (putNat n).size ≤ 5 := by
  rw [putNat, Bytes.size_ofList, Integer.encode]
  split
  · simp
  · split
    · simp
    · rw [if_pos (by omega)]
      simp

/-- 32 bytes are enough for what a rectangle takes beside its data. -/
theorem size_putRect_le (r : Rect) : (putRect r).size ≤ r.data.size + rectOverhead := by
  have hx := size_putNat_of_lt r.region.x.toNat_lt
  have hy := size_putNat_of_lt r.region.y.toNat_lt
  have hwidth := size_putNat_of_lt r.region.width.toNat_lt
  have hheight := size_putNat_of_lt r.region.height.toNat_lt
  have hlength := (size_putNat r.data.size).2
  simp only [putRect, ByteArray.size_append, size_putBytes, rectOverhead]
  omega

theorem size_joined_le (views : List RectView) : (joined putRect (views.map (·.owned))).size ≤ load views := by
  induction views with
  | nil => exact Nat.le_refl 0
  | cons v views ih =>
    have hv := size_putRect_le v.owned
    have hsize : v.owned.data.size = v.data.length := Stretch.size_bytes v.data
    rw [List.map_cons, joined, ByteArray.size_append, load, List.map_cons, List.sum_cons, ← load]
    omega

/-- The messages of a part that keeps its budget are no longer than a frame. -/
theorem size_putServer_le (u : Update) {views : List RectView} (h : load views ≤ partBudget) :
    (putServer (.update (viewOf u views).owned)).size ≤ maxFrameLength ∧
      (putServer (.updatePart (viewOf u views).owned)).size ≤ maxFrameLength := by
  have hrects := size_joined_le views
  have hsequence := (size_putNat u.sequence.toNat).2
  have hwidth := (size_putNat u.size.width.toNat).2
  have hheight := (size_putNat u.size.height.toNat).2
  have hmode : (putMode u.mode).size ≤ 9 := by cases u.mode <;> exact (size_putNat _).2
  have hkind : (putKind u.kind).size ≤ 9 := by cases u.kind <;> exact (size_putNat _).2
  have hcount := (size_putNat (views.map (·.owned)).length).2
  have hupdate := (size_putNat 2).2
  have hpart := (size_putNat 3).2
  have hbody : (putUpdate (viewOf u views).owned).size ≤ 54 + partBudget := by
    simp only [putUpdate_eq, ByteArray.size_append, putSize, UpdateView.owned, viewOf]
    omega
  have hroom : 63 + partBudget ≤ maxFrameLength := by decide
  simp only [putServer, ByteArray.size_append]
  omega

/-! ### What is sent -/

/-- The messages of the parts of an update, the last of which closes it. -/
def sent (u : Update) (leading : List (List Rect)) (closing : List Rect) : List ServerMessage :=
  leading.map (fun rects => .updatePart { u with rects }) ++ [.update { u with rects := closing }]

/-- All parts but the last are labelled as such. -/
theorem owned_label (u : Update) (first : List RectView) (others : List (List RectView)) :
    ∃ leading closing, (label u first others).map (·.owned) = sent u leading closing ∧
      leading.flatten ++ closing = (first ++ others.flatten).map (·.owned) := by
  induction others generalizing first with
  | nil => exact ⟨[], first.map (·.owned), rfl, by simp⟩
  | cons next others ih =>
    obtain ⟨leading, closing, hlabel, hflat⟩ := ih next
    refine ⟨first.map (·.owned) :: leading, closing, by rw [label, List.map_cons, hlabel]; rfl, ?_⟩
    rw [List.flatten_cons, List.append_assoc, hflat, List.flatten_cons, ← List.map_append]

/-- Parts that keep their budget are sent as they stand. -/
theorem encode_label (u : Update) {first : List RectView} {others : List (List RectView)}
    (hfirst : load first ≤ partBudget) (hothers : ∀ part ∈ others, load part ≤ partBudget) :
    ∀ m ∈ label u first others, (putServer m.owned).size ≤ maxFrameLength := by
  induction others generalizing first with
  | nil =>
    rintro m (⟨⟩ | ⟨_, ⟨⟩⟩)
    exact (size_putServer_le u hfirst).1
  | cons next others ih =>
    rintro m (⟨⟩ | ⟨_, hm⟩)
    · exact (size_putServer_le u hfirst).2
    · exact ih (hothers next List.mem_cons_self) (fun part h => hothers part (List.mem_cons_of_mem next h)) m hm

theorem mapM_encode {messages : List ServerMessageView}
    (h : ∀ m ∈ messages, (putServer m.owned).size ≤ maxFrameLength) :
    messages.mapM ServerMessageView.encode = .ok ((messages.map (·.owned)).map putServer) := by
  induction messages with
  | nil => rfl
  | cons m messages ih =>
    rw [List.mapM_cons, ServerMessageView.encode_eq, encode_of_size_le (h m List.mem_cons_self),
      ih fun n hn => h n (List.mem_cons_of_mem m hn)]
    rfl

/-! ### Joining what was parted -/

namespace Assembler

/-- Read payloads, and push their messages one after the other. -/
def receive (a : Assembler) : List ByteArray →
    Except DecodeError (List (Except AssemblyError (Option Update)) × Assembler)
  | [] => .ok ([], a)
  | payload :: payloads => do
    let message ← ServerMessage.decode payload
    let (answer, a) := a.push message
    let (answers, a) ← a.receive payloads
    return (answer :: answers, a)

/-- The assembler holds the rectangles of an update that have been pushed. -/
def Holds (a : Assembler) (u : Update) (rects : List Rect) : Prop :=
  a.pending = some { u with rects } ∨ a.pending = none ∧ rects = []

theorem holds_pending (u : Update) (rects : List Rect) :
    ({ pending := some { u with rects } } : Assembler).Holds u rects := Or.inl rfl

/-- A part is joined to what the assembler holds. -/
theorem Holds.join {a : Assembler} {u : Update} {before : List Rect} (h : a.Holds u before) (rects : List Rect) :
    a.join { u with rects } true = (.ok (some { u with rects := before ++ rects }), {}) ∧
      a.join { u with rects } false = (.ok none, { pending := some { u with rects := before ++ rects } }) := by
  rcases h with h | ⟨h, rfl⟩
  · simp [Assembler.join, h]
  · simp [Assembler.join, h]

/-- What was sent for an update is joined to it. -/
theorem receive_sent {u : Update} {leading : List (List Rect)} {closing before : List Rect} {a : Assembler}
    (ha : a.Holds u before) {payloads : List ByteArray}
    (h : List.Forall₂ (fun m payload => ServerMessage.encode m = .ok payload) (sent u leading closing) payloads) :
    a.receive payloads = .ok (List.replicate leading.length (.ok none) ++
      [.ok (some { u with rects := before ++ (leading.flatten ++ closing) })], {}) := by
  induction leading generalizing a before payloads with
  | nil =>
    obtain ⟨payload, rest, hencode, hrest, rfl⟩ := List.forall₂_cons_left_iff.1 h
    obtain rfl := List.forall₂_nil_left_iff.1 hrest
    rw [receive, (delimits_server hencode).1]
    simp only [bind, Except.bind, push, (ha.join closing).1]
    rfl
  | cons rects leading ih =>
    obtain ⟨payload, rest, hencode, hrest, rfl⟩ := List.forall₂_cons_left_iff.1 h
    have hnext := ih (holds_pending u (before ++ rects)) hrest
    rw [receive, (delimits_server hencode).1]
    simp only [bind, Except.bind, push, (ha.join rects).2]
    rw [hnext, List.flatten_cons, List.append_assoc, List.append_assoc]
    rfl

end Assembler

/-! ### The outcome -/

/-- The payloads carry an update. Each is the message of a part, no longer than a frame; the rectangles in
them are those of the update, in order, with the ones that do not fit a part in bands; and a new assembler
yields nothing before the last payload, then the update with these rectangles, and is empty again. -/
def Travels (u : Update) (payloads : List ByteArray) : Prop :=
  ∃ leading closing cuts,
    List.Forall₂ (fun m payload => ServerMessage.encode m = .ok payload ∧ payload.size ≤ maxFrameLength)
      (sent u leading closing) payloads ∧
    List.Forall₂ Carries u.rects cuts ∧ leading.flatten ++ closing = cuts.flatten ∧
    Assembler.receive {} payloads = .ok (List.replicate leading.length (.ok none) ++
      [.ok (some { u with rects := cuts.flatten })], {})

/-- Payloads that carry an update are no longer than a frame. -/
theorem Travels.size_le {u : Update} {payloads : List ByteArray} (h : Travels u payloads) :
    ∀ payload ∈ payloads, payload.size ≤ maxFrameLength := by
  obtain ⟨leading, closing, cuts, hsent, -⟩ := h
  intro payload hpayload
  obtain ⟨i, hi, rfl⟩ := List.getElem_of_mem hpayload
  exact (hsent.get (by rw [hsent.length_eq]; exact hi) hi).2

/-- An update is refused if one of its rectangles cannot travel, and sent otherwise. -/
theorem encodeUpdate_eq_ok {u : Update}
    (hfits : ∀ r ∈ u.rects, r.region.y.toNat + r.region.height.toNat < 2 ^ 32) :
    ((∃ r ∈ u.rects, Stuck u.mode r) ∧ encodeUpdate u = .ok (.error .sizeLimit)) ∨
      ((∀ r ∈ u.rects, ¬ Stuck u.mode r) ∧ ∃ payloads, encodeUpdate u = .ok (.ok payloads) ∧ Travels u payloads) := by
  rcases pieces_eq_ok hfits with ⟨hstuck, hnone⟩ | ⟨hfree, views, cuts, hsome, hcuts, howned, hroom⟩
  · exact Or.inl ⟨hstuck, by rw [encodeUpdate, parts, hnone]; rfl⟩
  · obtain ⟨first, others, hfill, hflat, hfirst, hothers⟩ := fill_spec hroom (Nat.zero_le _)
    rw [Nat.zero_add] at hfirst
    obtain ⟨leading, closing, hlabel, hrects⟩ := owned_label u first others
    have hsize := encode_label u hfirst hothers
    have hencode := mapM_encode hsize
    rw [hlabel] at hencode
    have hsent : List.Forall₂ (fun m payload => ServerMessage.encode m = .ok payload ∧ payload.size ≤ maxFrameLength)
        (sent u leading closing) ((sent u leading closing).map putServer) := by
      rw [List.forall₂_map_right_iff, List.forall₂_same]
      intro m hm
      rw [← hlabel] at hm
      obtain ⟨v, hv, rfl⟩ := List.mem_map.1 hm
      exact ⟨encode_of_size_le (hsize v hv), hsize v hv⟩
    refine Or.inr ⟨hfree, _, ?_, leading, closing, cuts, hsent, hcuts, by rw [hrects, hflat, howned], ?_⟩
    · rw [encodeUpdate, parts, hsome]
      show Except.ok ((label u (fill 0 views).1 (fill 0 views).2).mapM ServerMessageView.encode) = _
      rw [hfill, hencode]
    · rw [Assembler.receive_sent (Or.inr ⟨rfl, rfl⟩) (hsent.imp fun _ _ h => h.1), List.nil_append, hrects, hflat, howned]

/-! ### A picture in two parts -/

/-- What travels in two rectangles that do not fit one part is sent in two parts. -/
theorem encodeUpdate_of_two {u : Update} {v w : RectView} (hpieces : pieces u.mode u.rects = .ok (some [v, w]))
    (hv : v.data.length + rectOverhead ≤ partBudget) (hw : w.data.length + rectOverhead ≤ partBudget)
    (hfull : partBudget < v.data.length + rectOverhead + (w.data.length + rectOverhead)) :
    encodeUpdate u = .ok (.ok ((sent u [[v.owned]] [w.owned]).map putServer)) := by
  have hpos : 0 < rectOverhead := by decide
  have hfill : fill 0 [v, w] = ([v], [[w]]) := by
    rw [fill, if_neg (fun hused => absurd hused.1 (Nat.lt_irrefl 0)), fill, if_pos ⟨by omega, by omega⟩, fill]
  have hload : ∀ x : RectView, load [x] = x.data.length + rectOverhead := fun _ => Nat.add_zero _
  have hparts : parts u = .ok (some (label u [v] [[w]])) := by
    simp only [parts, hpieces, bind, Except.bind, hfill, pure, Except.pure]
  have hothers : ∀ part ∈ [[w]], load part ≤ partBudget := List.forall_mem_singleton.2 (hload w ▸ hw)
  have hsize := encode_label u (hload v ▸ hv) hothers
  simp only [encodeUpdate, hparts, bind, Except.bind, mapM_encode hsize, pure, Except.pure]
  rfl

/-- An update of a whole picture with 7680 columns and 4320 rows, in one rectangle. -/
def widePicture (pixels : ByteArray) : Update :=
  ⟨0, ⟨7680, 4320⟩, .raw, .full, [⟨⟨0, 0, 7680, 4320⟩, pixels⟩]⟩

/-- As many of its rows as a part has room for. -/
def wideTop (pixels : ByteArray) : RectView := ⟨⟨0, 0, 7680, 2182⟩, ⟨pixels, 0, 67031040⟩⟩

/-- The rows below them. -/
def wideBottom (pixels : ByteArray) : RectView := ⟨⟨0, 2182, 7680, 2138⟩, ⟨pixels, 67031040, 134062080⟩⟩

/-- The messages of its two parts. -/
def wideParts (pixels : ByteArray) : List ServerMessage :=
  sent (widePicture pixels) [[(wideTop pixels).owned]] [(wideBottom pixels).owned]

theorem widePicture_fits (pixels : ByteArray) :
    ∀ r ∈ (widePicture pixels).rects, r.region.y.toNat + r.region.height.toNat < 2 ^ 32 := by
  intro r hr
  obtain rfl := List.mem_singleton.1 hr
  show (0 : UInt32).toNat + (4320 : UInt32).toNat < 2 ^ 32
  decide

section

variable {pixels : ByteArray} (h : pixels.size = 132710400)

include h

theorem bands_wide : bands ⟨⟨0, 0, 7680, 4320⟩, pixels⟩ = .ok [wideTop pixels, wideBottom pixels] := by
  have hrow : (7680 : UInt32).toNat * bytesPerPixel = 30720 := by decide
  have hrows : (partBudget - rectOverhead) / 30720 = 2182 := by decide
  have hcount : List.range (stretchCount (2182 * 30720) 132710400) = [0, 1] := by decide
  simp only [bands, hrow, hrows, h, hcount, List.mapM_cons, List.mapM_nil, band, Stretch.length]
  rfl

theorem pieces_wide :
    pieces .raw [⟨⟨0, 0, 7680, 4320⟩, pixels⟩] = .ok (some [wideTop pixels, wideBottom pixels]) := by
  have hlarge : ¬ cost ⟨⟨0, 0, 7680, 4320⟩, pixels⟩ ≤ partBudget := by
    rw [cost, h, Nat.not_le]
    decide
  have hwidth : (7680 : UInt32) ≠ 0 := by decide
  have hroom : (7680 : UInt32).toNat * bytesPerPixel + rectOverhead ≤ partBudget := by decide
  have hsize : pixels.size = (7680 : UInt32).toNat * bytesPerPixel * (4320 : UInt32).toNat := by
    rw [h]
    decide
  rw [pieces, if_neg hlarge, if_pos ⟨rfl, hwidth, hroom, hsize⟩, bands_wide h]
  rfl

theorem encodeUpdate_wide : encodeUpdate (widePicture pixels) = .ok (.ok ((wideParts pixels).map putServer)) := by
  have htop : (wideTop pixels).data.length = 67031040 := by simp [wideTop, Stretch.length, h]
  have hbottom : (wideBottom pixels).data.length = 65679360 := by simp [wideBottom, Stretch.length, h]
  refine encodeUpdate_of_two (pieces_wide h) ?_ ?_ ?_
  · rw [htop]
    decide
  · rw [hbottom]
    decide
  · rw [htop, hbottom]
    decide

end

/-- Pixels of that picture, all of them zero. -/
def darkPixels : ByteArray := Bytes.zeros 132710400

/-! ### The whole way -/

theorem stuck_iff {mode : Mode} {r : Rect} :
    Stuck mode r ↔ partBudget < r.data.size + 32 ∧ (mode ≠ .raw ∨ r.region.width = 0 ∨
      partBudget < 4 * r.region.width.toNat + 32 ∨ r.data.size ≠ 4 * r.region.width.toNat * r.region.height.toNat) := by
  simp only [Stuck, Cuttable, cost, rectOverhead, bytesPerPixel, Nat.mul_comm _ 4, not_and_or, Nat.not_le, Ne,
    not_not]

/-- **Splitting and joining.** An update whose rectangles do not reach beyond the last row a word can count
is never met with a fault. If it is sent, its payloads carry it; and it is refused exactly if one of its
rectangles neither fits a part nor can be cut. -/
theorem encodeUpdate_travels {u : Update}
    (hfits : ∀ r ∈ u.rects, r.region.y.toNat + r.region.height.toNat < 2 ^ 32) :
    ∃ result, encodeUpdate u = .ok result ∧ (∀ payloads, result = .ok payloads → Travels u payloads) ∧
      ((∃ e, result = .error e) ↔ ∃ r ∈ u.rects, partBudget < r.data.size + 32 ∧
        (u.mode ≠ .raw ∨ r.region.width = 0 ∨ partBudget < 4 * r.region.width.toNat + 32 ∨
          r.data.size ≠ 4 * r.region.width.toNat * r.region.height.toNat)) := by
  simp only [← stuck_iff]
  rcases encodeUpdate_eq_ok hfits with ⟨hstuck, hresult⟩ | ⟨hfree, payloads, hresult, htravels⟩
  · exact ⟨_, hresult, by simp, iff_of_true ⟨_, rfl⟩ hstuck⟩
  · refine ⟨_, hresult, ?_, iff_of_false (by simp) fun ⟨r, hr, hstuck⟩ => hfree r hr hstuck⟩
    rintro _ ⟨⟩
    exact htravels

theorem encodeUpdate_travels_wide :
    (∀ r ∈ (widePicture darkPixels).rects, r.region.y.toNat + r.region.height.toNat < 2 ^ 32) ∧
      encodeUpdate (widePicture darkPixels) = .ok (.ok ((wideParts darkPixels).map putServer)) ∧
      Travels (widePicture darkPixels) ((wideParts darkPixels).map putServer) ∧
      ¬ ∃ r ∈ (widePicture darkPixels).rects, partBudget < r.data.size + 32 ∧
        ((widePicture darkPixels).mode ≠ .raw ∨ r.region.width = 0 ∨ partBudget < 4 * r.region.width.toNat + 32 ∨
          r.data.size ≠ 4 * r.region.width.toNat * r.region.height.toNat) := by
  have hsent := encodeUpdate_wide (show darkPixels.size = 132710400 from Bytes.size_zeros _)
  obtain ⟨result, hresult, htravels, hrefused⟩ := encodeUpdate_travels (widePicture_fits darkPixels)
  obtain rfl : result = _ := Except.ok.inj (hresult.symm.trans hsent)
  refine ⟨widePicture_fits _, hsent, htravels _ rfl, fun h => ?_⟩
  obtain ⟨e, he⟩ := hrefused.2 h
  cases he

end RemoteDesktop.Wire
