import RemoteDesktop.Proofs.Padding
import RemoteDesktop.Proofs.Viewer.Tiles

/-!
# Full updates and changes have the same tiles

The grid of a picture partitions it, and a detector with tiles of the same side reports tiles of this grid. So an
update in tiles is made of the whole grid or, if it is a change, of some of it (`Encoder.Primed.perform`); and the
changes that follow a full update replace tiles of it.

Main statement: `Encoder.changes_replace_tiles`.
-/

namespace RemoteDesktop

/-! ### The tiles of a picture -/

namespace Region

variable {side : UInt32} {size : Size} {t : Region}

/-- Every tile has a pixel. -/
theorem pos_of_mem_grid (hs : 0 < side.toNat) (ht : t ∈ grid side size) : 1 ≤ t.width.toNat ∧ 1 ≤ t.height.toNat := by
  obtain ⟨hcolumn, hrow, hright, hbottom⟩ := (mem_grid hs).1 ht
  simp only [right, bottom, left, top] at hcolumn hrow hright hbottom
  omega

theorem grid_nodup (side : UInt32) (size : Size) (hs : 0 < side.toNat) : (grid side size).Nodup := by
  refine (grid_pairwise_before side size hs).imp fun {a b} hbefore heq => ?_
  subst heq
  rcases hbefore with hrow | ⟨-, hcolumn⟩
  · exact Nat.lt_irrefl _ hrow
  · exact Nat.lt_irrefl _ hcolumn

/-- Every pixel of the picture lies in one tile, and no other point lies in any. -/
theorem countP_contains_grid (side : UInt32) (size : Size) (hs : 0 < side.toNat) (x y : Nat) :
    (grid side size).countP (fun t => t.Contains x y) =
      if x < size.width.toNat ∧ y < size.height.toNat then 1 else 0 := by
  by_cases hxy : x < size.width.toNat ∧ y < size.height.toNat
  · rw [if_pos hxy]
    exact countP_contains_of_apart (grid_pairwise_apart side size hs) (exists_mem_grid_contains size hs hxy.1 hxy.2)
  · rw [if_neg hxy, List.countP_eq_zero]
    intro t ht hcontains
    obtain ⟨hright, hbottom⟩ := inside_of_mem_grid hs ht
    obtain ⟨-, hx, -, hy⟩ := of_decide_eq_true hcontains
    exact hxy ⟨Nat.lt_of_lt_of_le hx hright, Nat.lt_of_lt_of_le hy hbottom⟩

example : grid 64 ⟨100, 70⟩ = [⟨0, 0, 64, 64⟩, ⟨64, 0, 36, 64⟩, ⟨0, 64, 64, 6⟩, ⟨64, 64, 36, 6⟩] := by decide

end Region

/-! ### The updates of an encoder -/

namespace Encoder

variable {σ : Type} {codec : TileCodec σ} {e after : Encoder σ} {before : List Update} {u : Update}

/-- The update in an answer. -/
def Reply.update? : Reply → Option Update
  | .ok update => update
  | .error _ => none

/-- The tiles in which pictures of a size are sent. -/
abbrev tiles (size : Size) : List Region := Region.grid tileSide size

/-- The updates end with a full one in the tiles of a size, and with changes of some of them. -/
def EndInTiles (size : Size) (updates : List Update) : Prop :=
  ∃ earlier full changes, updates = earlier ++ full :: changes ∧ full.kind = .full ∧ full.mode = .rfx ∧
    full.places = tiles size ∧ ∀ c ∈ changes, c.kind = .diff ∧ c.mode = .rfx ∧ c.places.Sublist (tiles size)

/-- An update behind others is made of all tiles, or of some of those that the others end with. -/
def InTiles (before : List Update) (u : Update) : Prop :=
  match u.kind with
  | .full => u.places = tiles u.size
  | .diff => u.places.Sublist (tiles u.size) ∧ EndInTiles u.size before

theorem InTiles.endInTiles (h : InTiles before u) (hmode : u.mode = .rfx) : EndInTiles u.size (before ++ [u]) := by
  unfold InTiles at h
  cases hkind : u.kind with
  | full =>
    rw [hkind] at h
    exact ⟨before, u, [], rfl, hkind, hmode, h, nofun⟩
  | diff =>
    rw [hkind] at h
    obtain ⟨hsub, earlier, full, changes, rfl, hfull, hfullMode, hplaces, hchanges⟩ := h
    refine ⟨earlier, full, changes ++ [u], by simp, hfull, hfullMode, hplaces, fun c hc => ?_⟩
    rcases List.mem_append.1 hc with hc | hc
    · exact hchanges c hc
    · obtain rfl := List.mem_singleton.1 hc
      exact ⟨hkind, hmode, hsub⟩

/-- The detector suits the encoder, and may report a part only if the updates so far end in tiles. -/
structure Primed (before : List Update) (e : Encoder σ) : Prop where
  suited : e.Suited
  endInTiles : e.options.mode = .rfx → ∀ d ∈ e.detector, d.invalidated = false → EndInTiles e.options.size before

namespace Primed

theorem initial (options : EncoderOptions) (state : σ) : Primed [] (.new options state) where
  suited := nofun
  endInTiles _ := nofun

/-- An update that is made of a frame stands in tiles. -/
theorem inTiles (h : Primed before e) {f : Frame} (hencode : e.encode codec f = .ok (.ok (some u), after))
    (hmode : u.mode = .rfx) : InTiles before u ∧ u.size = e.options.size ∧ u.mode = e.options.mode := by
  cases gives_of_encode hencode with
  | @update d d' damage kind places rects codecState hsize hd hinspect hregions hrects =>
    have hplaces : rects.map (·.region) = places := encodeRegions_places hrects
    have hoptions : e.options.mode = .rfx := hmode
    refine ⟨?_, rfl, rfl⟩
    cases damage with
    | unchanged => cases hregions
    | full =>
      simp only [regions, fullRegions, hoptions] at hregions
      cases hregions
      exact hplaces
    | partly changed =>
      simp only [regions, hoptions] at hregions
      cases hregions
      have hvalid : d.invalidated = false := by
        by_contra hinvalid
        cases inspect_of_invalidated (Bool.not_eq_false _ ▸ hinvalid) hinspect
      have hsub := (inspect_settings hinspect).2 places rfl
      rw [(h.suited d hd).tiles hoptions, hsize, ← hplaces] at hsub
      exact ⟨hsub, h.endInTiles hoptions d hd hvalid⟩

theorem encode (h : Primed before e) {f : Frame} {reply : Reply} (hencode : e.encode codec f = .ok (reply, after)) :
    Primed (before ++ reply.update?.toList) after where
  suited := h.suited.encode hencode
  endInTiles hmode d hd hvalid := by
    cases gives_of_encode hencode with
    | refusal =>
      rw [Reply.update?, Option.toList_none, List.append_nil]
      exact h.endInTiles hmode d hd hvalid
    | @nothing d' _ damage hd' hinspect hregions =>
      -- only a detector that has something to compare with finds nothing
      have hvalid' : d'.invalidated = false := by
        by_contra hinvalid
        rw [inspect_of_invalidated (Bool.not_eq_false _ ▸ hinvalid) hinspect] at hregions
        cases hregions
      rw [Reply.update?, Option.toList_none, List.append_nil]
      exact h.endInTiles hmode d' hd' hvalid'
    | failure =>
      obtain rfl := Option.some_inj.1 hd
      cases hvalid
    | update => exact (h.inTiles hencode hmode).1.endInTiles hmode

theorem perform (h : Primed before e) {request : Request} {reply : Reply}
    (hperform : e.perform codec request = .ok (reply, after)) :
    Primed (before ++ reply.update?.toList) after ∧ ∀ u, reply.update? = some u → u.mode = .rfx → InTiles before u := by
  rcases request.eq_encode_or e codec with ⟨f, rfl⟩ | ⟨_, _, hdirect, hnone, hdetector⟩
  · refine ⟨h.encode hperform, fun u hu hmode => ?_⟩
    cases reply with
    | error reason => cases hu
    | ok update =>
      obtain rfl : update = some u := hu
      exact (h.inTiles hperform hmode).1
  · obtain ⟨⟩ := hperform.symm.trans hdirect
    have hquiet : reply.update? = none := by
      cases reply with
      | error reason => rfl
      | ok update =>
        cases update with
        | none => rfl
        | some u => exact absurd rfl (hnone u)
    rw [hquiet, Option.toList_none, List.append_nil]
    refine ⟨⟨h.suited.perform hperform, fun hmode d hd hvalid => ?_⟩, nofun⟩
    rcases hdetector d hd with rfl | ⟨hoptions, d', hd', rfl | rfl⟩
    · cases hvalid
    · rw [hoptions] at hmode ⊢
      exact h.endInTiles hmode d hd' hvalid
    · cases hvalid

/-- Whatever an encoder is asked, every update in tiles stands in tiles behind those before it. -/
theorem replies (h : Primed before e) {requests : List Request} {answers : List Reply}
    (hreplies : Encoder.replies codec requests e = .ok answers) {earlier later : List Update}
    (hanswers : answers.filterMap Reply.update? = earlier ++ u :: later) (hmode : u.mode = .rfx) :
    InTiles (before ++ earlier) u := by
  induction requests generalizing before e answers earlier with
  | nil =>
    cases hreplies
    cases earlier <;> cases hanswers
  | cons request requests ih =>
    obtain ⟨⟨reply, next⟩, hperform, hreplies⟩ := bind_eq_ok_iff.1 hreplies
    obtain ⟨rest, hrest, hreplies⟩ := bind_eq_ok_iff.1 hreplies
    cases hreplies
    obtain ⟨hnext, hu⟩ := h.perform hperform
    cases hupdate : reply.update? with
    | none =>
      rw [List.filterMap_cons_none hupdate] at hanswers
      rw [hupdate, Option.toList_none, List.append_nil] at hnext
      exact ih hnext hrest hanswers
    | some v =>
      rw [List.filterMap_cons_some hupdate] at hanswers
      cases earlier with
      | nil =>
        obtain ⟨rfl, -⟩ := List.cons.inj hanswers
        rw [List.append_nil]
        exact hu v hupdate hmode
      | cons first earlier =>
        obtain ⟨rfl, hothers⟩ := List.cons.inj hanswers
        rw [hupdate, Option.toList_some] at hnext
        have hin := ih hnext hrest hothers
        rwa [List.append_assoc] at hin

end Primed

/-- **A change replaces tiles of the last full update.** For every size, the tiles of the grid stand row by row, have
1 to 64 pixels on each side, and partition the picture: each of its pixels lies in exactly one of them, and no other
point lies in any. If a detector with tiles of this side reports a part of a picture of the size, it reports some of
these tiles, in their order. So of all updates in tiles that an encoder makes, whatever it is asked, a full one is made
of the whole grid, and a change of some of it. Before a change stands a full update with only changes since; painting
all of them is painting the full one with its tiles replaced by those of each change. -/
theorem changes_replace_tiles (codec : TileCodec σ) (options : EncoderOptions) (state : σ) (size : Size) :
    let tiles := Region.grid 64 size
    tiles.Pairwise Region.Before ∧
      (∀ t ∈ tiles, (1 ≤ t.width.toNat ∧ t.width.toNat ≤ 64) ∧ 1 ≤ t.height.toNat ∧ t.height.toNat ≤ 64) ∧
      (∀ x y, tiles.countP (fun t => t.Contains x y) = if x < size.width.toNat ∧ y < size.height.toNat then 1 else 0) ∧
      (∀ (d next : Detector) (f : Frame) (changed : List Region), d.settings.tileSize = 64 → f.size = size →
        d.detect f = .ok (.partly changed, next) → changed.Sublist tiles) ∧
      ∀ requests answers, replies codec requests (.new options state) = .ok answers →
        ∀ before u later, answers.filterMap Reply.update? = before ++ u :: later → u.mode = .rfx → u.size = size →
          (u.kind = .full → u.places = tiles) ∧
          (u.kind = .diff → u.places.Sublist tiles ∧
            ∃ earlier full changes, before = earlier ++ full :: changes ∧
              full.kind = .full ∧ full.places = tiles ∧ (∀ c ∈ changes, c.kind = .diff) ∧
              ∀ p : Picture, (∀ v ∈ full :: (changes ++ [u]), v.Unpacks) →
                p.applyAll (full :: (changes ++ [u])) =
                  p.apply ((changes ++ [u]).foldl Update.replacedBy full)) := by
  intro grid
  have hs : 0 < (64 : UInt32).toNat := by decide
  refine ⟨Region.grid_pairwise_before 64 size hs, fun t ht => ?_, Region.countP_contains_grid 64 size hs,
    fun d next f changed hside hsize hdetect => ?_, fun requests answers hreplies before u later hanswers hmode hsize => ?_⟩
  · obtain ⟨hwidth, hheight⟩ := Region.pos_of_mem_grid hs ht
    obtain ⟨hwidth', hheight'⟩ := Region.le_side_of_mem_grid hs ht
    exact ⟨⟨hwidth, hwidth'⟩, hheight, hheight'⟩
  · have hsub := (Detector.detect_settings hdetect).2 changed rfl
    rwa [hside, hsize] at hsub
  · have hin : InTiles before u := (Primed.initial options state).replies hreplies hanswers hmode
    unfold InTiles at hin
    subst hsize
    refine ⟨fun hkind => ?_, fun hkind => ?_⟩
    · rwa [hkind] at hin
    · rw [hkind] at hin
      obtain ⟨hsub, earlier, full, changes, rfl, hfull, hfullMode, hplaces, hchanges⟩ := hin
      refine ⟨hsub, earlier, full, changes, rfl, hfull, hplaces, fun c hc => (hchanges c hc).1, fun p hunpacks => ?_⟩
      obtain ⟨hfullUnpacks, hunpacks⟩ := List.forall_mem_cons.1 hunpacks
      refine Picture.applyAll_eq_apply (Region.grid_pairwise_apart 64 u.size hs) (Region.grid_nodup 64 u.size hs) hplaces
        hfullUnpacks (fun c hc => ?_) p
      rw [hfullMode]
      rcases List.mem_append.1 hc with hmem | hmem
      · obtain ⟨hkind, hmode, hsub⟩ := hchanges c hmem
        exact ⟨hkind, hmode, hsub, hunpacks c hc⟩
      · obtain rfl := List.mem_singleton.1 hmem
        exact ⟨hkind, hmode, hsub, hunpacks c hc⟩

/-- Two pixels of one shade as a packed tile. -/
def shadeUpdate (sequence : UInt64) (kind : UpdateKind) (shade : UInt8) : Update where
  sequence := sequence
  size := ⟨2, 1⟩
  mode := .rfx
  kind := kind
  rects := [⟨⟨0, 0, 2, 1⟩, ⟨#[8, 0, 0, 0, 128, shade, shade, shade, 255, shade, shade, shade, 255]⟩⟩]

/-- The change of a picture of one tile replaces this tile. -/
theorem changes_replace_tiles_shade :
    let full := shadeUpdate 0 .full 0
    let change := shadeUpdate 1 .diff 9
    replies .lz4 [.start, .encode (Feed.shadeFrame 0), .encode (Feed.shadeFrame 9)] (.new ⟨⟨2, 1⟩, .rfx, true⟩ ()) =
        .ok [.ok none, .ok (some full), .ok (some change)] ∧
      full.Unpacks ∧ change.Unpacks ∧ change.places.Sublist (Region.grid 64 ⟨2, 1⟩) ∧
      full.replacedBy change = shadeUpdate 0 .full 9 ∧
      ∀ p : Picture, p.applyAll [full, change] = p.apply (full.replacedBy change) := by
  intro full change
  have hreplies : replies .lz4 [.start, .encode (Feed.shadeFrame 0), .encode (Feed.shadeFrame 9)]
      (.new ⟨⟨2, 1⟩, .rfx, true⟩ ()) = .ok [.ok none, .ok (some full), .ok (some change)] := by decide +kernel
  have hfull : full.Unpacks :=
    List.forall_mem_singleton.2 ⟨⟨#[0, 0, 0, 255, 0, 0, 0, 255]⟩, by decide +kernel⟩
  have hchange : change.Unpacks :=
    List.forall_mem_singleton.2 ⟨⟨#[9, 9, 9, 255, 9, 9, 9, 255]⟩, by decide +kernel⟩
  obtain ⟨-, -, -, -, hupdates⟩ := changes_replace_tiles .lz4 ⟨⟨2, 1⟩, .rfx, true⟩ () ⟨2, 1⟩
  obtain ⟨-, hdiff⟩ := hupdates _ _ hreplies [full] change [] rfl rfl rfl
  obtain ⟨hsub, earlier, last, changes, hbefore, -, -, -, hpaint⟩ := hdiff rfl
  obtain ⟨rfl, hbefore⟩ : earlier = [] ∧ [full] = last :: changes := by
    cases earlier with
    | nil => exact ⟨rfl, hbefore⟩
    | cons first earlier => cases earlier <;> cases hbefore
  obtain ⟨rfl, rfl⟩ := List.cons.inj hbefore
  refine ⟨hreplies, hfull, hchange, hsub, rfl, fun p => hpaint p ?_⟩
  exact List.forall_mem_cons.2 ⟨hfull, List.forall_mem_singleton.2 hchange⟩

end Encoder

end RemoteDesktop
