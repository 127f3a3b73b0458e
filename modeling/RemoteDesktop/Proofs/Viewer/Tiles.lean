import RemoteDesktop.Proofs.Emission
import RemoteDesktop.Viewer.Tiles

/-!
# Changes replace tiles

Rectangles that share no pixel can be painted in any order, and one that is painted over another of the same region
hides it. So painting a change over kept rectangles is painting the kept ones with some replaced, if the regions of the
change are some of those kept (`Picture.apply_replacedBy`).
-/

namespace RemoteDesktop

variable {p : Picture} {mode : Mode}

/-! ### Painting in another order -/

namespace Picture

theorem paint_paint (region : Region) (below above : ByteArray) (p : Picture) :
    (p.paint region below).paint region above = p.paint region above := by
  simp only [paint, mk.injEq, true_and]
  funext x y
  split <;> rfl

theorem paint_comm {a b : Region} (h : a.Apart b) (ofA ofB : ByteArray) (p : Picture) :
    (p.paint a ofA).paint b ofB = (p.paint b ofB).paint a ofA := by
  simp only [paint, mk.injEq, true_and]
  funext x y
  by_cases ha : a.Contains x y
  · simp [ha, h x y ha]
  · simp [ha]

end Picture

/-- The picture with a rectangle painted over. -/
def Rect.paintOn (mode : Mode) (p : Picture) (r : Rect) : Picture :=
  p.paint r.region ((r.pixels mode).toOption.getD ByteArray.empty)

namespace Picture

theorem paintAll_eq_foldl {rects : List Rect} (h : ∀ r ∈ rects, ∃ pixels, r.pixels mode = .ok pixels) (p : Picture) :
    paintAll mode rects p = .ok (rects.foldl (Rect.paintOn mode) p) := by
  induction rects generalizing p with
  | nil => rfl
  | cons r rects ih =>
    obtain ⟨pixels, hpixels⟩ := h r List.mem_cons_self
    have hon : Rect.paintOn mode p r = p.paint r.region pixels := by
      rw [Rect.paintOn, hpixels]
      rfl
    rw [List.foldl_cons, hon, ← ih (fun s hs => h s (List.mem_cons_of_mem _ hs))]
    simp only [paintAll, hpixels, bind, Except.bind]

/-- A rectangle that shares no pixel with others can be painted before or after them. -/
theorem foldl_paintOn_comm {r : Rect} {rects : List Rect} (h : ∀ s ∈ rects, r.region.Apart s.region) (p : Picture) :
    rects.foldl (Rect.paintOn mode) (Rect.paintOn mode p r) = Rect.paintOn mode (rects.foldl (Rect.paintOn mode) p) r := by
  induction rects generalizing p with
  | nil => rfl
  | cons s rects ih =>
    have hswap : Rect.paintOn mode (Rect.paintOn mode p r) s = Rect.paintOn mode (Rect.paintOn mode p s) r :=
      paint_comm (h s List.mem_cons_self) _ _ p
    rw [List.foldl_cons, List.foldl_cons, hswap, ih fun t ht => h t (List.mem_cons_of_mem _ ht)]

end Picture

/-! ### What stands in the place of a rectangle -/

/-- The rectangle of a change that stands in the place of another one, or this one if the change has none. -/
def Rect.replacedIn (change : List Rect) (r : Rect) : Rect := (change.find? fun s => s.region = r.region).getD r

namespace Rect

variable {change : List Rect} {r s : Rect}

theorem replacedIn_cases (change : List Rect) (r : Rect) :
    r.replacedIn change = r ∨ r.replacedIn change ∈ change ∧ (r.replacedIn change).region = r.region := by
  rw [replacedIn]
  cases hfind : change.find? fun s => s.region = r.region with
  | none => exact .inl rfl
  | some s =>
    have hregion := List.find?_some hfind
    exact .inr ⟨List.mem_of_find?_eq_some hfind, of_decide_eq_true hregion⟩

theorem replacedIn_of_forall_ne (h : ∀ s ∈ change, s.region ≠ r.region) : r.replacedIn change = r := by
  rcases replacedIn_cases change r with hsame | ⟨hmem, hregion⟩
  · exact hsame
  · exact absurd hregion (h _ hmem)

theorem replacedIn_cons_self (h : s.region = r.region) : r.replacedIn (s :: change) = s := by
  rw [replacedIn, List.find?_cons_of_pos (by simpa using h), Option.getD_some]

theorem replacedIn_cons_of_ne (h : s.region ≠ r.region) : r.replacedIn (s :: change) = r.replacedIn change := by
  rw [replacedIn, List.find?_cons_of_neg (by simpa using h), replacedIn]

end Rect

namespace Picture

/-- Painting rectangles over kept ones is painting the kept ones with some replaced. -/
theorem foldl_paintOn_replaced {kept change : List Rect} (hapart : (kept.map (·.region)).Pairwise Region.Apart)
    (hdistinct : (kept.map (·.region)).Nodup) (hsub : (change.map (·.region)).Sublist (kept.map (·.region))) (p : Picture) :
    change.foldl (Rect.paintOn mode) (kept.foldl (Rect.paintOn mode) p) =
      (kept.map (Rect.replacedIn change)).foldl (Rect.paintOn mode) p := by
  induction kept generalizing change p with
  | nil =>
    obtain rfl : change = [] := List.map_eq_nil_iff.1 (List.sublist_nil.1 hsub)
    rfl
  | cons k kept ih =>
    rw [List.map_cons, List.pairwise_cons, List.forall_mem_map] at hapart
    rw [List.map_cons, List.nodup_cons] at hdistinct
    rw [List.map_cons, List.sublist_cons_iff] at hsub
    obtain ⟨hk, hapart⟩ := hapart
    obtain ⟨hnew, hdistinct⟩ := hdistinct
    rcases hsub with hsub | ⟨rest, hchange, hsub⟩
    · -- nothing of the change has the region of the first that is kept
      have hothers : ∀ s ∈ change, s.region ≠ k.region :=
        fun s hs heq => hnew (heq ▸ hsub.subset (List.mem_map_of_mem hs))
      rw [List.foldl_cons, ih hapart hdistinct hsub, List.map_cons, Rect.replacedIn_of_forall_ne hothers, List.foldl_cons]
    · -- the change begins with one in the place of the first that is kept
      obtain ⟨n, change, rfl, hregion, rfl⟩ := List.map_eq_cons_iff.1 hchange
      have hothers : kept.map (Rect.replacedIn (n :: change)) = kept.map (Rect.replacedIn change) := by
        refine List.map_congr_left fun r hr => Rect.replacedIn_cons_of_ne fun heq => ?_
        exact hnew (hregion ▸ heq ▸ List.mem_map_of_mem hr)
      have hover : Rect.paintOn mode (Rect.paintOn mode p k) n = Rect.paintOn mode p n := by
        simp only [Rect.paintOn, hregion]
        exact paint_paint _ _ _ p
      have hpast : ∀ s ∈ kept, n.region.Apart s.region := hregion ▸ hk
      calc (n :: change).foldl (Rect.paintOn mode) ((k :: kept).foldl (Rect.paintOn mode) p)
          = change.foldl (Rect.paintOn mode)
              (kept.foldl (Rect.paintOn mode) (Rect.paintOn mode (Rect.paintOn mode p k) n)) := by
            rw [foldl_paintOn_comm hpast]
            rfl
        _ = (kept.map (Rect.replacedIn change)).foldl (Rect.paintOn mode) (Rect.paintOn mode p n) := by
            rw [hover, ih hapart hdistinct hsub]
        _ = ((k :: kept).map (Rect.replacedIn (n :: change))).foldl (Rect.paintOn mode) p := by
            rw [List.map_cons, Rect.replacedIn_cons_self hregion, hothers, List.foldl_cons]

end Picture

/-! ### Replacing -/

variable {kept change : Update} {tiles : List Region}

theorem Update.rects_replacedBy (kept change : Update) :
    (kept.replacedBy change).rects = kept.rects.map (Rect.replacedIn change.rects) := rfl

theorem Update.places_replacedBy (kept change : Update) : (kept.replacedBy change).places = kept.places := by
  rw [places, places, rects_replacedBy, List.map_map]
  refine List.map_congr_left fun r _ => ?_
  rcases Rect.replacedIn_cases change.rects r with hsame | ⟨-, hregion⟩
  · exact congrArg Rect.region hsame
  · exact hregion

theorem Update.Unpacks.replacedBy (hkept : kept.Unpacks) (hchange : change.Unpacks) (hmode : change.mode = kept.mode) :
    (kept.replacedBy change).Unpacks := by
  intro r hr
  rw [Update.rects_replacedBy] at hr
  obtain ⟨old, hold, rfl⟩ := List.mem_map.1 hr
  rcases Rect.replacedIn_cases change.rects old with hsame | ⟨hmem, -⟩
  · exact hsame.symm ▸ hkept old hold
  · exact hmode ▸ hchange _ hmem

namespace Picture

theorem apply_eq_ok (h : kept.Unpacks) (p : Picture) :
    p.apply kept = .ok (kept.rects.foldl (Rect.paintOn kept.mode)
      (match kept.kind with | .full => { p with size := kept.size } | .diff => p)) :=
  paintAll_eq_foldl h _

/-- A change over a full update shows what the full update shows with the tiles of the change in the place of its own. -/
theorem apply_replacedBy (hapart : kept.places.Pairwise Region.Apart) (hdistinct : kept.places.Nodup)
    (hsub : change.places.Sublist kept.places) (hmode : change.mode = kept.mode) (hchange : change.kind = .diff)
    (hkept : kept.Unpacks) (hunpacks : change.Unpacks) (p : Picture) :
    (p.apply kept >>= fun q => q.apply change) = p.apply (kept.replacedBy change) := by
  have hreplaced := hkept.replacedBy hunpacks hmode
  rw [apply_eq_ok hkept, apply_eq_ok hreplaced]
  change Picture.apply _ _ = _
  rw [apply_eq_ok hunpacks, hchange, hmode]
  exact congrArg Except.ok (foldl_paintOn_replaced hapart hdistinct hsub _)

/-- Painting changes over a full update, one after the other, is painting the full update with its tiles replaced. -/
theorem applyAll_eq_apply (hapart : tiles.Pairwise Region.Apart) (hdistinct : tiles.Nodup) (hplaces : kept.places = tiles)
    (hkept : kept.Unpacks) {changes : List Update}
    (hchanges : ∀ c ∈ changes, c.kind = .diff ∧ c.mode = kept.mode ∧ c.places.Sublist tiles ∧ c.Unpacks) (p : Picture) :
    p.applyAll (kept :: changes) = p.apply (changes.foldl Update.replacedBy kept) := by
  induction changes generalizing kept with
  | nil => exact bind_pure _
  | cons c changes ih =>
    obtain ⟨⟨hkind, hmode, hsub, hunpacks⟩, hrest⟩ := List.forall_mem_cons.1 hchanges
    subst hplaces
    calc p.applyAll (kept :: c :: changes)
        = (p.apply kept >>= fun q => q.apply c) >>= applyAll changes := (bind_assoc _ _ _).symm
      _ = p.applyAll (kept.replacedBy c :: changes) := by
          rw [apply_replacedBy hapart hdistinct hsub hmode hkind hkept hunpacks]
          rfl
      _ = _ := ih (kept.places_replacedBy c) (hkept.replacedBy hunpacks hmode) hrest

end Picture

end RemoteDesktop
