import Mathlib.Data.List.Pairwise
import RemoteDesktop.Proofs.Merge

/-!
# Merging does not depend on the order

Different orders join regions in a different sequence, with other regions in between. What they agree on is
where it ends: the merged regions are the least list of regions that lie apart and cover the given ones, for a
list that lies apart covers the union of two nearby regions as soon as it covers both (`Spread.within_union`), and so
everything that merging makes on the way (`merge_within`). Two lists that lie apart and cover each other have the
same members (`perm_of_covers`). Main statement: `merge_order_free`.
-/

namespace RemoteDesktop.Region

/-- Every region of `inner` lies in one of `outer`. -/
def Covers (outer inner : List Region) : Prop := ∀ r ∈ inner, ∃ u ∈ outer, r.Within u

theorem Covers.of_perm {outer inner inner' : List Region} (h : Covers outer inner) (hp : inner.Perm inner') :
    Covers outer inner' :=
  fun r hr => h r (hp.mem_iff.2 hr)

theorem Clusters.covers {outs ins : List Region} (h : Clusters outs ins) : Covers outs ins := fun _ => h.exists_within

/-! ### Nearby regions -/

theorem Within.antisymm {a b : Region} (hab : a.Within b) (hba : b.Within a) : a = b := by
  obtain ⟨h1, h2, h3, h4⟩ := hab
  obtain ⟨k1, k2, k3, k4⟩ := hba
  exact ext_edges (by omega) (by omega) (by omega) (by omega)

theorem Near.symm {distance : UInt32} {a b : Region} (h : Near distance a b) : Near distance b a :=
  ⟨h.1.symm, h.2.symm⟩

/-- Regions around nearby ones are near each other, the more so at a greater distance. -/
theorem Near.mono {distance wider : UInt32} {a b u v : Region} (h : Near distance a b) (hw : distance ≤ wider)
    (ha : a.Within u) (hb : b.Within v) : Near wider u v := by
  rw [UInt32.le_iff_toNat_le] at hw
  obtain ⟨h1, h2, h3, h4⟩ := ha
  obtain ⟨k1, k2, k3, k4⟩ := hb
  obtain ⟨⟨n1, n2⟩, n3, n4⟩ := h
  exact ⟨⟨by omega, by omega⟩, by omega, by omega⟩

/-- A region around two regions is one around their union. -/
theorem union_within {a b u v : Region} (ha : a.Fits) (hb : b.Fits) (h : a.union b = .ok u) (hav : a.Within v)
    (hbv : b.Within v) : u.Within v := by
  obtain ⟨w, hw, hl, ht, hr, hbot⟩ := union_eq_ok ha hb
  obtain rfl : w = u := Except.ok.inj (hw.symm.trans h)
  obtain ⟨h1, h2, h3, h4⟩ := hav
  obtain ⟨k1, k2, k3, k4⟩ := hbv
  exact ⟨by omega, by omega, by omega, by omega⟩

theorem union_fits {a b u : Region} (ha : a.Fits) (hb : b.Fits) (h : a.union b = .ok u) : u.Fits := by
  obtain ⟨w, hw, -, -, hr, hbot⟩ := union_eq_ok ha hb
  obtain rfl : w = u := Except.ok.inj (hw.symm.trans h)
  obtain ⟨ha1, ha2⟩ := ha
  obtain ⟨hb1, hb2⟩ := hb
  exact ⟨by omega, by omega⟩

/-! ### Lists that lie apart -/

/-- Of regions that lie apart, each is near itself alone. -/
theorem Spread.eq_of_near {distance : UInt32} {regions : List Region} (h : Spread distance regions) {a b : Region}
    (ha : a ∈ regions) (hb : b ∈ regions) (hab : Near distance a b) : a = b := by
  have symm : Std.Symm fun a b => ¬ Near distance a b := ⟨fun _ _ h hba => h hba.symm⟩
  exact Decidable.byContradiction fun hne => List.Pairwise.forall h ha hb hne hab

theorem Spread.nodup {distance : UInt32} {regions : List Region} (h : Spread distance regions) : regions.Nodup :=
  h.imp fun {a b} hab (heq : a = b) => hab (heq ▸ near_of_within distance a.within_self a.within_self)

/-- Two nearby regions that lie in regions far apart lie in the same one, and so does their union. -/
theorem Spread.within_union {distance wider : UInt32} (hw : distance ≤ wider) {bounds : List Region}
    (h : Spread wider bounds) {a b u : Region} (ha : a.Fits) (hb : b.Fits) (hu : a.union b = .ok u)
    (hab : Near distance a b) (hab' : ∃ v ∈ bounds, a.Within v) (hbb : ∃ v ∈ bounds, b.Within v) :
    ∃ v ∈ bounds, u.Within v := by
  obtain ⟨v, hv, hav⟩ := hab'
  obtain ⟨w, hw', hbw⟩ := hbb
  obtain rfl : v = w := h.eq_of_near hv hw' (hab.mono hw hav hbw)
  exact ⟨v, hv, union_within ha hb hu hav hbw⟩

/-- Lists that lie apart and cover each other have the same members. -/
theorem mem_of_covers {distance : UInt32} {as bs : List Region} (h : Spread distance as) (hab : Covers as bs)
    (hba : Covers bs as) {a : Region} (ha : a ∈ as) : a ∈ bs := by
  obtain ⟨b, hb, hab'⟩ := hba a ha
  obtain ⟨c, hc, hbc⟩ := hab b hb
  -- `a` lies in `c` by way of `b`, so `c` is `a` itself
  obtain rfl : a = c := h.eq_of_near ha hc (near_of_within distance (within_self a) (hab'.trans hbc))
  exact hab'.antisymm hbc ▸ hb

theorem perm_of_covers {distance : UInt32} {as bs : List Region} (ha : Spread distance as) (hb : Spread distance bs)
    (hab : Covers as bs) (hba : Covers bs as) : as.Perm bs :=
  (List.perm_ext_iff_of_nodup ha.nodup hb.nodup).2 fun _ => ⟨mem_of_covers ha hab hba, mem_of_covers hb hba hab⟩

/-! ### What merging keeps -/

section Keeps

variable {distance : UInt32} {P : Region → Prop}
  (hunion : ∀ a b u, P a → P b → isNear distance a b = .ok true → a.union b = .ok u → P u)
include hunion

theorem absorb_forall {region : Region} {merged out : List Region} {joined : Bool}
    (h : absorb distance region merged = .ok (out, joined)) (hregion : P region) (hmerged : ∀ r ∈ merged, P r) :
    ∀ r ∈ out, P r := by
  induction merged generalizing out with
  | nil =>
    cases h
    simpa using hregion
  | cons first rest ih =>
    obtain ⟨hfirst, hrest⟩ := List.forall_mem_cons.1 hmerged
    rcases absorb_cons_cases h with ⟨hnear, -, u, hu, rfl⟩ | ⟨-, after, hafter, rfl⟩
    · exact List.forall_mem_cons.2 ⟨hunion first region u hfirst hregion hnear hu, hrest⟩
    · exact List.forall_mem_cons.2 ⟨hfirst, ih hafter hrest⟩

theorem pass_forall {merged regions out : List Region} {before after : Bool}
    (h : pass distance merged before regions = .ok (out, after)) (hmerged : ∀ r ∈ merged, P r)
    (hregions : ∀ r ∈ regions, P r) : ∀ r ∈ out, P r := by
  induction regions generalizing merged before with
  | nil =>
    cases h
    exact hmerged
  | cons region regions ih =>
    obtain ⟨hregion, hrest⟩ := List.forall_mem_cons.1 hregions
    obtain ⟨next, joined, habsorb, hpass⟩ := pass_cons_cases h
    exact ih hpass (absorb_forall hunion habsorb hregion hmerged) hrest

/-- What holds of the regions, and with two nearby ones of their union, holds of the merged regions. -/
theorem merge_forall {regions out : List Region} (h : merge distance regions = .ok out)
    (hregions : ∀ r ∈ regions, P r) : ∀ r ∈ out, P r := by
  fun_induction merge distance regions with
  | case1 regions hshort =>
    cases h
    exact hregions
  | case2 regions hlong fault hstep => cases h
  | case3 regions hlong merged hstep =>
    cases h
    exact pass_forall hunion hstep (by simp) hregions
  | case4 regions hlong merged hstep ih => exact ih h (pass_forall hunion hstep (by simp) hregions)

end Keeps

/-- Merged regions lie within whatever lies apart and covers the regions. -/
theorem merge_within {distance wider : UInt32} (hw : distance ≤ wider) {bounds regions out : List Region}
    (hbounds : Spread wider bounds) (hfits : ∀ r ∈ regions, r.Fits) (hcovers : Covers bounds regions)
    (h : merge distance regions = .ok out) : Covers bounds out := by
  have hkept : ∀ r ∈ out, r.Fits ∧ ∃ v ∈ bounds, r.Within v := by
    refine merge_forall (fun a b u ha hb hnear hu => ?_) h fun r hr => ⟨hfits r hr, hcovers r hr⟩
    rw [isNear_eq_ok ha.1 hb.1, Except.ok.injEq, decide_eq_true_eq] at hnear
    exact ⟨union_fits ha.1 hb.1 hu, hbounds.within_union hw ha.1 hb.1 hu hnear ha.2 hb.2⟩
  exact fun r hr => (hkept r hr).2

/-! ### Regions that lie apart already -/

theorem absorb_of_alone {distance : UInt32} {region : Region} {merged : List Region}
    (h : ∀ m ∈ merged, isNear distance m region = .ok false) :
    absorb distance region merged = .ok (merged ++ [region], false) := by
  induction merged with
  | nil => rfl
  | cons first rest ih =>
    obtain ⟨hfirst, hrest⟩ := List.forall_mem_cons.1 h
    simp [absorb, hfirst, ih hrest, bind, Except.bind, pure, Except.pure]

theorem pass_of_pairwise {distance : UInt32} {merged regions : List Region}
    (h : (merged ++ regions).Pairwise fun a b => isNear distance a b = .ok false) :
    pass distance merged false regions = .ok (merged ++ regions, false) := by
  induction regions generalizing merged with
  | nil => rw [List.append_nil]; rfl
  | cons region regions ih =>
    have halone : ∀ m ∈ merged, isNear distance m region = .ok false := fun m hm =>
      (List.pairwise_append.1 h).2.2 m hm region List.mem_cons_self
    rw [List.append_cons] at h ⊢
    simp only [pass, absorb_of_alone halone, bind, Except.bind, Bool.or_false]
    exact ih h

/-- Regions of which no two are near each other are left as they are. -/
theorem merge_of_pairwise {distance : UInt32} {regions : List Region}
    (h : regions.Pairwise fun a b => isNear distance a b = .ok false) : merge distance regions = .ok regions := by
  have hpass : pass distance [] false regions = .ok (regions, false) := pass_of_pairwise h
  rw [merge]
  split
  · rfl
  · split
    next fault hstep => rw [hpass] at hstep; cases hstep
    next merged hstep => rw [hpass] at hstep; cases hstep; rfl
    next merged hstep => rw [hpass] at hstep; cases hstep

/-- **Merging does not depend on the order.** Regions that fit are merged to the same regions in whatever order
they come; merging the result again leaves it as it is, order included; and at a greater distance every result
lies in one of the results there. -/
theorem merge_order_free (distance : UInt32) {regions permuted : List Region} (hperm : regions.Perm permuted)
    (hfits : ∀ r ∈ regions, r.Fits) :
    ∃ out out', merge distance regions = .ok out ∧ merge distance permuted = .ok out' ∧ out.Perm out' ∧
      merge distance out = .ok out ∧
      ∀ wider, distance ≤ wider → ∃ larger, merge wider regions = .ok larger ∧ Covers larger out := by
  have hfits' : ∀ r ∈ permuted, r.Fits := fun r hr => hfits r (hperm.mem_iff.2 hr)
  obtain ⟨out, hout, hclusters, hspread⟩ := merge_eq_ok distance hfits
  obtain ⟨out', hout', hclusters', hspread'⟩ := merge_eq_ok distance hfits'
  refine ⟨out, out', hout, hout', perm_of_covers hspread hspread' ?_ ?_, merge_of_pairwise (merge_pairwise_isNear hout),
    fun wider hw => ?_⟩
  · exact merge_within (UInt32.le_refl _) hspread hfits' (hclusters.covers.of_perm hperm) hout'
  · exact merge_within (UInt32.le_refl _) hspread' hfits (hclusters'.covers.of_perm hperm.symm) hout
  · obtain ⟨larger, hlarger, hclusters, hspread⟩ := merge_eq_ok wider hfits
    exact ⟨larger, hlarger, merge_within hw hspread hfits hclusters.covers hout⟩

/-- The same regions may come out in another order; at a larger distance they all become one. -/
theorem merge_order_free_bridge :
    bridge.Perm (bridge.rotateLeft 1) ∧ (∀ r ∈ bridge, r.Fits) ∧ (2 : UInt32) ≤ 8 ∧
      merge 2 bridge = .ok [⟨0, 0, 32, 10⟩, ⟨40, 0, 10, 10⟩] ∧
      merge 2 (bridge.rotateLeft 1) = .ok [⟨40, 0, 10, 10⟩, ⟨0, 0, 32, 10⟩] ∧
      [⟨0, 0, 32, 10⟩, ⟨40, 0, 10, 10⟩].Perm [(⟨40, 0, 10, 10⟩ : Region), ⟨0, 0, 32, 10⟩] ∧
      merge 2 [⟨0, 0, 32, 10⟩, ⟨40, 0, 10, 10⟩] = .ok [⟨0, 0, 32, 10⟩, ⟨40, 0, 10, 10⟩] ∧
      merge 8 bridge = .ok [⟨0, 0, 50, 10⟩] ∧ Covers [⟨0, 0, 50, 10⟩] [⟨0, 0, 32, 10⟩, ⟨40, 0, 10, 10⟩] := by
  have hperm : bridge.Perm (bridge.rotateLeft 1) := by decide
  have hfits : ∀ r ∈ bridge, r.Fits := by decide
  have hwider : (2 : UInt32) ≤ 8 := by decide
  have hnear : merge 2 bridge = .ok [⟨0, 0, 32, 10⟩, ⟨40, 0, 10, 10⟩] := by decide +kernel
  have hrotated : merge 2 (bridge.rotateLeft 1) = .ok [⟨40, 0, 10, 10⟩, ⟨0, 0, 32, 10⟩] := by decide +kernel
  have hfar : merge 8 bridge = .ok [⟨0, 0, 50, 10⟩] := by decide +kernel
  obtain ⟨out, out', hout, hout', hsame, hagain, hlarger⟩ := merge_order_free 2 hperm hfits
  obtain ⟨larger, hmerge, hcovers⟩ := hlarger 8 hwider
  cases hnear.symm.trans hout
  cases hrotated.symm.trans hout'
  cases hfar.symm.trans hmerge
  exact ⟨hperm, hfits, hwider, hnear, hrotated, hsame, hagain, hfar, hcovers⟩

end RemoteDesktop.Region
