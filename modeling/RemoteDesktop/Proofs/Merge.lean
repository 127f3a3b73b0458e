import Mathlib.Data.List.Forall2
import Mathlib.Data.List.Perm.Basic
import RemoteDesktop.Proofs.Grid
import RemoteDesktop.Region.Merge

/-!
# Merging as clustering

Merging regions that fit never overflows, and what comes out clusters what went in: the regions fall
into groups, and each result is the smallest region around its group (`merge_clusters`). The groups are
not part of the program; the proof carries them along. No two of the results are near each other
(`merge_pairwise_isNear`), so they share no pixel, and a region lies in one of them only. Main statement:
`merge_partitions`.
-/

namespace RemoteDesktop.Region

/-- All of `a` lies in `b`. -/
def Within (a b : Region) : Prop :=
  b.left ≤ a.left ∧ a.right ≤ b.right ∧ b.top ≤ a.top ∧ a.bottom ≤ b.bottom

instance (a b : Region) : Decidable (a.Within b) := inferInstanceAs (Decidable (_ ∧ _))

theorem within_self (r : Region) : r.Within r := ⟨Nat.le_refl _, Nat.le_refl _, Nat.le_refl _, Nat.le_refl _⟩

theorem Within.contains {a b : Region} {x y : Nat} (h : a.Within b) (ha : a.Contains x y) :
    b.Contains x y := by
  obtain ⟨hl, hr, ht, hb⟩ := h
  obtain ⟨h1, h2, h3, h4⟩ := ha
  exact ⟨by omega, by omega, by omega, by omega⟩

theorem Within.trans {a b c : Region} (hab : a.Within b) (hbc : b.Within c) : a.Within c := by
  obtain ⟨h1, h2, h3, h4⟩ := hab
  obtain ⟨k1, k2, k3, k4⟩ := hbc
  exact ⟨by omega, by omega, by omega, by omega⟩

theorem left_le_right (r : Region) : r.left ≤ r.right := Nat.le_add_right _ _

theorem top_le_bottom (r : Region) : r.top ≤ r.bottom := Nat.le_add_right _ _

/-- `u` is the smallest region around a group: it holds every member, and each of its edges is the
edge of one. -/
structure IsHull (u : Region) (group : List Region) : Prop where
  covers : ∀ r ∈ group, r.Within u
  left : ∃ r ∈ group, r.left = u.left
  top : ∃ r ∈ group, r.top = u.top
  right : ∃ r ∈ group, r.right = u.right
  bottom : ∃ r ∈ group, r.bottom = u.bottom

/-- The regions of `ins` fall into groups whose hulls are the regions of `outs`. -/
def Clusters (outs ins : List Region) : Prop :=
  ∃ groups, List.Forall₂ IsHull outs groups ∧ groups.flatten.Perm ins

/-! ### Two regions -/

theorem IsHull.singleton (r : Region) : IsHull r [r] :=
  ⟨by simp [Within], by simp, by simp, by simp, by simp⟩

theorem IsHull.fits {u : Region} {group : List Region} (h : IsHull u group) (hg : ∀ r ∈ group, r.Fits) :
    u.Fits := by
  obtain ⟨a, ha, har⟩ := h.right
  obtain ⟨b, hb, hbb⟩ := h.bottom
  exact ⟨har ▸ (hg a ha).1, hbb ▸ (hg b hb).2⟩

/-- The union of two regions that fit has the outer edges of both. -/
theorem union_eq_ok {a b : Region} (ha : a.Fits) (hb : b.Fits) : ∃ u, a.union b = .ok u ∧
    u.left = min a.left b.left ∧ u.top = min a.top b.top ∧ u.right = max a.right b.right ∧
      u.bottom = max a.bottom b.bottom := by
  obtain ⟨ar, har, harn⟩ := Word.exists_add_eq_ok ha.1
  obtain ⟨br, hbr, hbrn⟩ := Word.exists_add_eq_ok hb.1
  obtain ⟨ab, hab, habn⟩ := Word.exists_add_eq_ok ha.2
  obtain ⟨bb, hbb, hbbn⟩ := Word.exists_add_eq_ok hb.2
  have sub_edge {m n : UInt32} (h : n.toNat ≤ m.toNat) : (m - n).toNat = m.toNat - n.toNat :=
    Word.toNat_sub_of_le (UInt32.le_iff_toNat_le.2 h)
  refine ⟨⟨min a.x b.x, min a.y b.y, max ar br - min a.x b.x, max ab bb - min a.y b.y⟩, ?_, ?_⟩
  · simp only [union, har, hbr, hab, hbb, bind, Except.bind, pure, Except.pure]
  · simp only [left, top, right, bottom]
    rw [sub_edge (by simp only [Word.toNat_min, Word.toNat_max]; omega),
      sub_edge (by simp only [Word.toNat_min, Word.toNat_max]; omega)]
    simp only [Word.toNat_min, Word.toNat_max, true_and]
    omega

/-- Two regions lie within `distance` of each other in both directions. -/
def Near (distance : UInt32) (a b : Region) : Prop :=
  (b.left ≤ a.right + distance.toNat ∧ a.left ≤ b.right + distance.toNat) ∧
    (b.top ≤ a.bottom + distance.toNat ∧ a.top ≤ b.bottom + distance.toNat)

instance (distance : UInt32) (a b : Region) : Decidable (Near distance a b) :=
  inferInstanceAs (Decidable (_ ∧ _))

/-- The distance of two stretches is what lies between them. -/
theorem gap_eq_ok {a m b n : UInt32} (ha : a.toNat + m.toNat < 2 ^ 32) (hb : b.toNat + n.toNat < 2 ^ 32) :
    ∃ g, gap a m b n = .ok g ∧
      g.toNat = max (b.toNat - (a.toNat + m.toNat)) (a.toNat - (b.toNat + n.toNat)) := by
  obtain ⟨ae, hae, haen⟩ := Word.exists_add_eq_ok ha
  obtain ⟨be, hbe, hben⟩ := Word.exists_add_eq_ok hb
  refine ⟨if ae ≤ b then b - ae else if be ≤ a then a - be else 0, ?_, ?_⟩
  · simp only [gap, hae, hbe, bind, Except.bind, pure, Except.pure]
  · by_cases h : ae ≤ b
    · rw [if_pos h, Word.toNat_sub_of_le h]
      rw [UInt32.le_iff_toNat_le] at h
      omega
    · rw [if_neg h]
      rw [UInt32.le_iff_toNat_le] at h
      by_cases h' : be ≤ a
      · rw [if_pos h', Word.toNat_sub_of_le h']
        rw [UInt32.le_iff_toNat_le] at h'
        omega
      · rw [if_neg h', UInt32.toNat_zero]
        rw [UInt32.le_iff_toNat_le] at h'
        omega

/-- Regions that share a region, be it without pixels, are near each other whatever the distance. -/
theorem near_of_within (distance : UInt32) {r a b : Region} (ha : r.Within a) (hb : r.Within b) : Near distance a b := by
  have hx := r.left_le_right
  have hy := r.top_le_bottom
  obtain ⟨h1, h2, h3, h4⟩ := ha
  obtain ⟨k1, k2, k3, k4⟩ := hb
  exact ⟨⟨by omega, by omega⟩, by omega, by omega⟩

/-- No two of the regions lie within `distance` of each other. -/
def Spread (distance : UInt32) (regions : List Region) : Prop := regions.Pairwise fun a b => ¬ Near distance a b

theorem isNear_eq_ok {distance : UInt32} {a b : Region} (ha : a.Fits) (hb : b.Fits) :
    isNear distance a b = .ok (decide (Near distance a b)) := by
  obtain ⟨g, hg, hgn⟩ := gap_eq_ok ha.1 hb.1
  obtain ⟨k, hk, hkn⟩ := gap_eq_ok ha.2 hb.2
  have hnear : Near distance a b ↔ g ≤ distance ∧ k ≤ distance := by
    simp only [Near, left, right, top, bottom, UInt32.le_iff_toNat_le]
    omega
  simp only [isNear, hg, hk, bind, Except.bind, pure, Except.pure]
  by_cases h : g ≤ distance
  · rw [if_pos h, decide_eq_decide.2 (hnear.trans (and_iff_right h))]
  · rw [if_neg h, decide_eq_false (mt (fun hn => (hnear.1 hn).1) h)]

theorem isNear_eq_false_iff {distance : UInt32} {a b : Region} (ha : a.Fits) (hb : b.Fits) :
    isNear distance a b = .ok false ↔ ¬ Near distance a b := by
  rw [isNear_eq_ok ha hb, Except.ok.injEq, decide_eq_false_iff_not]

/-- The union of two hulls is the hull of both groups. -/
theorem IsHull.union {a b u : Region} {g k : List Region} (ha : IsHull a g) (hb : IsHull b k)
    (hl : u.left = min a.left b.left) (ht : u.top = min a.top b.top) (hr : u.right = max a.right b.right)
    (hd : u.bottom = max a.bottom b.bottom) : IsHull u (g ++ k) := by
  have inA : a.Within u := ⟨by omega, by omega, by omega, by omega⟩
  have inB : b.Within u := ⟨by omega, by omega, by omega, by omega⟩
  have either {edge : Region → Nat} (h : edge u = edge a ∨ edge u = edge b)
      (hga : ∃ r ∈ g, edge r = edge a) (hkb : ∃ r ∈ k, edge r = edge b) :
      ∃ r ∈ g ++ k, edge r = edge u := by
    obtain ⟨r, hr, hre⟩ := hga
    obtain ⟨s, hs, hse⟩ := hkb
    rcases h with h | h
    · exact ⟨r, List.mem_append_left k hr, hre.trans h.symm⟩
    · exact ⟨s, List.mem_append_right g hs, hse.trans h.symm⟩
  refine ⟨fun r hr => ?_, either (by omega) ha.left hb.left, either (by omega) ha.top hb.top,
    either (by omega) ha.right hb.right, either (by omega) ha.bottom hb.bottom⟩
  rcases List.mem_append.1 hr with hr | hr
  · exact (ha.covers r hr).trans inA
  · exact (hb.covers r hr).trans inB

/-! ### Lists of regions -/

/-- One region joins the hulls of some groups, or starts a group of its own. -/
theorem absorb_hulls (distance : UInt32) {region : Region} {g : List Region} (hg : IsHull region g)
    (hfit : region.Fits) {merged : List Region} {groups : List (List Region)}
    (h : List.Forall₂ IsHull merged groups) (hfits : ∀ r ∈ merged, r.Fits) :
    ∃ out joined groups', absorb distance region merged = .ok (out, joined) ∧
      List.Forall₂ IsHull out groups' ∧ groups'.flatten.Perm (groups.flatten ++ g) ∧ ∀ r ∈ out, r.Fits := by
  induction h with
  | nil =>
    exact ⟨[region], false, [g], rfl, .cons hg .nil, by simp, by simpa using hfit⟩
  | @cons first k rest ks hk hrest ih =>
    have hfirst := hfits first List.mem_cons_self
    have hfitsRest : ∀ r ∈ rest, r.Fits := fun r hr => hfits r (List.mem_cons_of_mem _ hr)
    by_cases hnear : Near distance first region
    · obtain ⟨u, hu, hl, ht, hr, hb⟩ := union_eq_ok hfirst hfit
      refine ⟨u :: rest, true, (k ++ g) :: ks, ?_, .cons (hk.union hg hl ht hr hb) hrest, ?_, ?_⟩
      · simp [absorb, isNear_eq_ok hfirst hfit, hnear, hu, bind, Except.bind, pure, Except.pure]
      · simp only [List.flatten_cons, List.append_assoc]
        exact (List.perm_append_comm).append_left k
      · intro r hr'
        rcases List.mem_cons.1 hr' with rfl | hr'
        · exact ⟨by have := hfirst.1; have := hfit.1; omega, by have := hfirst.2; have := hfit.2; omega⟩
        · exact hfitsRest r hr'
    · obtain ⟨out, joined, groups', hout, hhull, hperm, hfits'⟩ := ih hfitsRest
      refine ⟨first :: out, joined, k :: groups', ?_, .cons hk hhull, ?_, ?_⟩
      · simp [absorb, isNear_eq_ok hfirst hfit, hnear, hout, bind, Except.bind, pure, Except.pure]
      · simp only [List.flatten_cons, List.append_assoc]
        exact hperm.append_left k
      · intro r hr'
        rcases List.mem_cons.1 hr' with rfl | hr'
        · exact hfirst
        · exact hfits' r hr'

/-- A pass keeps every group together. -/
theorem pass_hulls (distance : UInt32) {regions : List Region} {gs : List (List Region)}
    (h : List.Forall₂ IsHull regions gs) (hfits : ∀ r ∈ regions, r.Fits) {merged : List Region}
    {groups : List (List Region)} (hm : List.Forall₂ IsHull merged groups) (hmfits : ∀ r ∈ merged, r.Fits)
    (changed : Bool) :
    ∃ out after groups', pass distance merged changed regions = .ok (out, after) ∧
      List.Forall₂ IsHull out groups' ∧ groups'.flatten.Perm (groups.flatten ++ gs.flatten) ∧
        ∀ r ∈ out, r.Fits := by
  induction h generalizing merged groups changed with
  | nil => exact ⟨merged, changed, groups, rfl, hm, by simp, hmfits⟩
  | @cons region g regions gs hg hrest ih =>
    obtain ⟨merged', joined, groups', habsorb, hhull, hperm, hfits'⟩ :=
      absorb_hulls distance hg (hfits region List.mem_cons_self) hm hmfits
    obtain ⟨out, after, groups'', hpass, hhull', hperm', hfits''⟩ :=
      ih (fun r hr => hfits r (List.mem_cons_of_mem _ hr)) hhull hfits' (changed || joined)
    refine ⟨out, after, groups'', ?_, hhull', ?_, hfits''⟩
    · simp [pass, habsorb, hpass, bind, Except.bind]
    · rw [List.flatten_cons, ← List.append_assoc]
      exact hperm'.trans (hperm.append_right _)

theorem merge_hulls (distance : UInt32) {regions : List Region} {groups : List (List Region)}
    (h : List.Forall₂ IsHull regions groups) (hfits : ∀ r ∈ regions, r.Fits) :
    ∃ out groups', merge distance regions = .ok out ∧ List.Forall₂ IsHull out groups' ∧
      groups'.flatten.Perm groups.flatten := by
  fun_induction merge distance regions generalizing groups with
  | case1 regions hshort => exact ⟨regions, groups, rfl, h, .refl _⟩
  | case2 regions hlong fault hstep =>
    obtain ⟨out, after, groups', hpass, -⟩ := pass_hulls distance h hfits .nil (by simp) false
    rw [hpass] at hstep
    cases hstep
  | case3 regions hlong merged hstep =>
    obtain ⟨out, after, groups', hpass, hhull, hperm, -⟩ := pass_hulls distance h hfits .nil (by simp) false
    rw [hpass] at hstep
    cases hstep
    exact ⟨merged, groups', rfl, hhull, by simpa using hperm⟩
  | case4 regions hlong merged hstep ih =>
    obtain ⟨out, after, groups', hpass, hhull, hperm, hfits'⟩ := pass_hulls distance h hfits .nil (by simp) false
    rw [hpass] at hstep
    cases hstep
    obtain ⟨out', groups'', hmerge, hhull', hperm'⟩ := ih hhull hfits'
    exact ⟨out', groups'', hmerge, hhull', hperm'.trans (by simpa using hperm)⟩

/-- Merging regions that fit clusters them. -/
theorem merge_clusters (distance : UInt32) {regions : List Region} (hfits : ∀ r ∈ regions, r.Fits) :
    ∃ out, merge distance regions = .ok out ∧ Clusters out regions := by
  have hsingle : List.Forall₂ IsHull regions (regions.map fun r => [r]) := by
    rw [List.forall₂_map_right_iff, List.forall₂_same]
    exact fun r _ => IsHull.singleton r
  obtain ⟨out, groups, hout, hhull, hperm⟩ := merge_hulls distance hsingle hfits
  refine ⟨out, hout, groups, hhull, hperm.trans ?_⟩
  rw [← List.flatMap_def, List.flatMap_singleton']

/-- Every group has its hull, and every hull its group. -/
theorem exists_of_mem_hulls {outs : List Region} {groups : List (List Region)}
    (h : List.Forall₂ IsHull outs groups) :
    (∀ g ∈ groups, ∃ u ∈ outs, IsHull u g) ∧ ∀ u ∈ outs, ∃ g ∈ groups, IsHull u g := by
  induction h with
  | nil => simp
  | @cons u g outs groups hu _ ih =>
    refine ⟨fun k hk => ?_, fun v hv => ?_⟩
    · rcases List.mem_cons.1 hk with rfl | hk
      · exact ⟨u, List.mem_cons_self, hu⟩
      · obtain ⟨v, hv, hvk⟩ := ih.1 k hk
        exact ⟨v, List.mem_cons_of_mem _ hv, hvk⟩
    · rcases List.mem_cons.1 hv with rfl | hv
      · exact ⟨g, List.mem_cons_self, hu⟩
      · obtain ⟨k, hk, hvk⟩ := ih.2 v hv
        exact ⟨k, List.mem_cons_of_mem _ hk, hvk⟩

/-- Every region lies in one of its clusters. -/
theorem Clusters.exists_within {outs ins : List Region} (h : Clusters outs ins) {r : Region} (hr : r ∈ ins) :
    ∃ u ∈ outs, r.Within u := by
  obtain ⟨groups, hhull, hperm⟩ := h
  obtain ⟨g, hg, hrg⟩ := List.mem_flatten.1 (hperm.mem_iff.2 hr)
  obtain ⟨u, hu, hug⟩ := (exists_of_mem_hulls hhull).1 g hg
  exact ⟨u, hu, hug.covers r hrg⟩

/-- A cluster is the smallest region around the regions that lie in it. -/
theorem Clusters.isHull {outs ins : List Region} (h : Clusters outs ins) :
    ∀ u ∈ outs, IsHull u (ins.filter fun r => r.Within u) := by
  obtain ⟨groups, hhull, hperm⟩ := h
  intro u hu
  obtain ⟨g, hg, hug⟩ := (exists_of_mem_hulls hhull).2 u hu
  have hsub : g ⊆ ins.filter fun r => r.Within u := fun r hr =>
    List.mem_filter.2 ⟨hperm.mem_iff.1 (List.mem_flatten.2 ⟨g, hg, hr⟩), decide_eq_true (hug.covers r hr)⟩
  have keep {edge : Region → Nat} :
      (∃ r ∈ g, edge r = edge u) → ∃ r ∈ ins.filter (fun r => r.Within u), edge r = edge u :=
    fun ⟨r, hr, he⟩ => ⟨r, hsub hr, he⟩
  exact ⟨fun r hr => of_decide_eq_true (List.mem_filter.1 hr).2, keep hug.left, keep hug.top, keep hug.right,
    keep hug.bottom⟩

/-- Clusters of regions that fit fit. -/
theorem Clusters.fits {outs ins : List Region} (h : Clusters outs ins) (hins : ∀ r ∈ ins, r.Fits) :
    ∀ u ∈ outs, u.Fits :=
  fun u hu => (h.isHull u hu).fits fun r hr => hins r (List.mem_filter.1 hr).1

/-- What holds all regions holds their clusters. -/
theorem Clusters.inside {outs ins : List Region} (h : Clusters outs ins) {size : Size}
    (hins : ∀ r ∈ ins, r.Inside size) : ∀ u ∈ outs, u.Inside size := by
  intro u hu
  have hull := h.isHull u hu
  have hmem {r : Region} (hr : r ∈ ins.filter fun r => r.Within u) : r.Inside size := hins r (List.mem_filter.1 hr).1
  obtain ⟨a, ha, har⟩ := hull.right
  obtain ⟨b, hb, hbb⟩ := hull.bottom
  exact ⟨har ▸ (hmem ha).1, hbb ▸ (hmem hb).2⟩

/-! ### What is left apart -/

/-- A region that joined none was near none, and comes last. -/
theorem absorb_alone {distance : UInt32} {region : Region} {merged out : List Region}
    (h : absorb distance region merged = .ok (out, false)) :
    out = merged ++ [region] ∧ ∀ m ∈ merged, isNear distance m region = .ok false := by
  induction merged generalizing out with
  | nil =>
    cases h
    exact ⟨rfl, by simp⟩
  | cons first rest ih =>
    rcases absorb_cons_cases h with ⟨-, hjoined, -⟩ | ⟨hnear, after, hafter, rfl⟩
    · cases hjoined
    · obtain ⟨rfl, hall⟩ := ih hafter
      exact ⟨rfl, List.forall_mem_cons.2 ⟨hnear, hall⟩⟩

/-- After a pass in which no regions were joined, none are near each other that were not so before. -/
theorem pass_pairwise_isNear {distance : UInt32} {merged regions out : List Region} {changed : Bool}
    (h : pass distance merged changed regions = .ok (out, false)) :
    changed = false ∧ (merged.Pairwise (fun a b => isNear distance a b = .ok false) →
      out.Pairwise fun a b => isNear distance a b = .ok false) := by
  induction regions generalizing merged changed with
  | nil =>
    cases h
    exact ⟨rfl, id⟩
  | cons region regions ih =>
    obtain ⟨next, joined, habsorb, hpass⟩ := pass_cons_cases h
    obtain ⟨hchanged, hpairwise⟩ := ih hpass
    rw [Bool.or_eq_false_iff] at hchanged
    obtain ⟨hbefore, rfl⟩ := hchanged
    obtain ⟨rfl, hnone⟩ := absorb_alone habsorb
    refine ⟨hbefore, fun hmerged => hpairwise (List.pairwise_append.2 ⟨hmerged, List.pairwise_singleton _ _, ?_⟩)⟩
    simpa using hnone

/-- No two merged regions are near each other. -/
theorem merge_pairwise_isNear {distance : UInt32} {regions out : List Region}
    (h : merge distance regions = .ok out) : out.Pairwise fun a b => isNear distance a b = .ok false := by
  fun_induction merge distance regions with
  | case1 regions hshort =>
    obtain rfl := Except.ok.inj h
    cases regions with
    | nil => exact .nil
    | cons r rest =>
      have hrest : rest = [] := List.length_eq_zero_iff.1 (by simpa using hshort)
      exact hrest ▸ List.pairwise_singleton _ r
  | case2 regions hlong fault hstep => cases h
  | case3 regions hlong merged hstep =>
    cases h
    exact (pass_pairwise_isNear hstep).2 .nil
  | case4 regions hlong merged hstep ih => exact ih h

/-- The merged regions lie apart. -/
theorem merge_spread {distance : UInt32} {regions out : List Region} (hfits : ∀ r ∈ out, r.Fits)
    (h : merge distance regions = .ok out) : Spread distance out :=
  (merge_pairwise_isNear h).imp_of_mem fun ha hb => (isNear_eq_false_iff (hfits _ ha) (hfits _ hb)).1

/-- Regions that fit are merged to clusters that lie apart. -/
theorem merge_eq_ok (distance : UInt32) {regions : List Region} (hfits : ∀ r ∈ regions, r.Fits) :
    ∃ out, merge distance regions = .ok out ∧ Clusters out regions ∧ Spread distance out := by
  obtain ⟨out, hout, hclusters⟩ := merge_clusters distance hfits
  exact ⟨out, hout, hclusters, merge_spread (hclusters.fits hfits) hout⟩

/-- Merging makes no regions. -/
theorem merge_length {distance : UInt32} {regions out : List Region} (h : merge distance regions = .ok out) :
    out.length ≤ regions.length := by
  fun_induction merge distance regions with
  | case1 regions hshort =>
    cases h
    exact Nat.le_refl _
  | case2 regions hlong fault hstep => cases h
  | case3 regions hlong merged hstep =>
    cases h
    simpa using (pass_length hstep).1
  | case4 regions hlong merged hstep ih => exact Nat.le_trans (ih h) (by simpa using (pass_length hstep).1)

/-- Regions that share a pixel are near each other, whatever the distance. -/
theorem apart_of_isNear {distance : UInt32} {a b : Region} (ha : a.Fits) (hb : b.Fits)
    (h : isNear distance a b = .ok false) : Apart a b := by
  rw [isNear_eq_false_iff ha hb] at h
  rintro x y ⟨hal, har, hat, hab⟩ ⟨hbl, hbr, hbt, hbb⟩
  exact h ⟨⟨by omega, by omega⟩, by omega, by omega⟩

/-- Of regions that lie apart, at most one holds a given region. -/
theorem countP_within_of_spread {distance : UInt32} {regions : List Region} (h : Spread distance regions) {r : Region}
    (hr : ∃ u ∈ regions, r.Within u) : regions.countP (fun u => r.Within u) = 1 :=
  countP_eq_one_of_pairwise
    (h.imp fun hab ⟨ha, hb⟩ => hab (near_of_within distance (of_decide_eq_true ha) (of_decide_eq_true hb)))
    (by simpa using hr)

/-- **Merging is a partition.** Regions that fit are merged without overflow. Of the results no two are near each
other: what lies between them exceeds `distance`, horizontally or vertically. Every region lies in exactly one
result, and each result is the smallest region around those that lie in it; so there are no more results than
regions. -/
theorem merge_partitions (distance : UInt32) {regions : List Region} (hfits : ∀ r ∈ regions, r.Fits) :
    ∃ out, merge distance regions = .ok out ∧
      (out.Pairwise (fun a b => isNear distance a b = .ok false) ∧ Spread distance out) ∧
      (∀ r ∈ regions, out.countP (fun u => r.Within u) = 1) ∧
      (∀ u ∈ out, IsHull u (regions.filter fun r => r.Within u)) ∧ out.length ≤ regions.length := by
  obtain ⟨out, hout, hclusters, hspread⟩ := merge_eq_ok distance hfits
  exact ⟨out, hout, ⟨merge_pairwise_isNear hout, hspread⟩,
    fun r hr => countP_within_of_spread hspread (hclusters.exists_within hr), hclusters.isHull, merge_length hout⟩

/-- Two regions 30 pixels apart, and one without pixels between them. -/
def bridge : List Region := [⟨0, 0, 10, 10⟩, ⟨40, 0, 10, 10⟩, ⟨12, 4, 20, 0⟩]

/-- The last region joins the first one, and their union the second one in another pass. -/
theorem merge_partitions_bridge :
    (∀ r ∈ bridge, r.Fits) ∧ merge 8 bridge = .ok [⟨0, 0, 50, 10⟩] ∧ Spread 8 [⟨0, 0, 50, 10⟩] ∧
      (∀ r ∈ bridge, [(⟨0, 0, 50, 10⟩ : Region)].countP (fun u => r.Within u) = 1) ∧
      IsHull ⟨0, 0, 50, 10⟩ (bridge.filter fun r => r.Within ⟨0, 0, 50, 10⟩) ∧
      [(⟨0, 0, 50, 10⟩ : Region)].length ≤ bridge.length := by
  have hfits : ∀ r ∈ bridge, r.Fits := by decide
  have hmerge : merge 8 bridge = .ok [⟨0, 0, 50, 10⟩] := by decide +kernel
  obtain ⟨out, hout, ⟨-, hspread⟩, hcount, hhull, hlength⟩ := merge_partitions 8 hfits
  cases hmerge.symm.trans hout
  exact ⟨hfits, hmerge, hspread, hcount, hhull _ (List.mem_singleton_self _), hlength⟩

end RemoteDesktop.Region
