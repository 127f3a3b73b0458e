import RemoteDesktop.Region

/-!
# Merging nearby regions

`merge` joins regions that lie within a given distance of each other, until no two of them do. Each
pass lets every region join the first nearby region before it; a pass in which some region joined
another one leaves fewer regions, so the passes end (`pass_length`).
-/

namespace RemoteDesktop.Region

/-- Let `region` join the first nearby region of `merged`, or else the end of that list; also says
whether it joined one. -/
def absorb (distance : UInt32) (region : Region) : List Region → Checked (List Region × Bool)
  | [] => .ok ([region], false)
  | first :: rest => do
    if ← isNear distance first region then
      return ((← first.union region) :: rest, true)
    else
      let (rest, joined) ← absorb distance region rest
      return (first :: rest, joined)

/-- One pass over the regions, after those of `merged`. -/
def pass (distance : UInt32) (merged : List Region) (changed : Bool) :
    List Region → Checked (List Region × Bool)
  | [] => .ok (merged, changed)
  | region :: regions => do
    let (merged, joined) ← absorb distance region merged
    pass distance merged (changed || joined) regions

/-- What becomes of a region that meets the first of a list: the two are joined, or it goes on to the
rest. -/
theorem absorb_cons_cases {distance : UInt32} {region first : Region} {rest out : List Region}
    {joined : Bool} (h : absorb distance region (first :: rest) = .ok (out, joined)) :
    (isNear distance first region = .ok true ∧ joined = true ∧
      ∃ u, first.union region = .ok u ∧ out = u :: rest) ∨
    (isNear distance first region = .ok false ∧
      ∃ after, absorb distance region rest = .ok (after, joined) ∧ out = first :: after) := by
  obtain ⟨near, hnear, h⟩ := bind_eq_ok_iff.1 h
  cases near with
  | true =>
    obtain ⟨u, hunion, h⟩ := bind_eq_ok_iff.1 h
    cases h
    exact .inl ⟨hnear, rfl, u, hunion, rfl⟩
  | false =>
    obtain ⟨⟨after, found⟩, hrest, h⟩ := bind_eq_ok_iff.1 h
    cases h
    exact .inr ⟨hnear, after, hrest, rfl⟩

/-- A pass over a list lets its first region join, and goes on with the others. -/
theorem pass_cons_cases {distance : UInt32} {merged : List Region} {changed : Bool} {region : Region}
    {regions : List Region} {result : List Region × Bool}
    (h : pass distance merged changed (region :: regions) = .ok result) :
    ∃ next joined, absorb distance region merged = .ok (next, joined) ∧
      pass distance next (changed || joined) regions = .ok result := by
  obtain ⟨⟨next, joined⟩, habsorb, h⟩ := bind_eq_ok_iff.1 h
  exact ⟨next, joined, habsorb, h⟩

/-- A region that joins another one leaves the list as long as it was. -/
theorem absorb_length {distance : UInt32} {region : Region} {merged out : List Region}
    {joined : Bool} (h : absorb distance region merged = .ok (out, joined)) :
    out.length = merged.length + (if joined then 0 else 1) := by
  induction merged generalizing out with
  | nil => cases h; rfl
  | cons first rest ih =>
    rcases absorb_cons_cases h with ⟨-, rfl, u, -, rfl⟩ | ⟨-, after, hafter, rfl⟩
    · rfl
    · rw [List.length_cons, List.length_cons, ih hafter, Nat.add_right_comm]

/-- A pass never lengthens the list, and shortens it if some region joined another one. -/
theorem pass_length {distance : UInt32} {merged regions out : List Region} {before after : Bool}
    (h : pass distance merged before regions = .ok (out, after)) :
    out.length ≤ merged.length + regions.length ∧
      (before = false → after = true → out.length < merged.length + regions.length) := by
  induction regions generalizing merged before with
  | nil => cases h; simp_all
  | cons region regions ih =>
    obtain ⟨next, joined, habsorb, hpass⟩ := pass_cons_cases h
    have hl := absorb_length habsorb
    obtain ⟨hle, hlt⟩ := ih hpass
    rw [List.length_cons]
    cases joined with
    | false =>
      rw [if_neg Bool.false_ne_true] at hl
      rw [Bool.or_false] at hlt
      exact ⟨by omega, fun hbefore hafter => by have := hlt hbefore hafter; omega⟩
    | true =>
      rw [if_pos rfl] at hl
      exact ⟨by omega, fun _ _ => by omega⟩

/-- Join the regions that lie within `distance` of each other, until none do. -/
def merge (distance : UInt32) (regions : List Region) : Checked (List Region) :=
  if regions.length ≤ 1 then .ok regions
  else
    match _step : pass distance [] false regions with
    | .error fault => .error fault
    | .ok (merged, false) => .ok merged
    | .ok (merged, true) => merge distance merged
termination_by regions.length
decreasing_by simpa using (pass_length _step).2 rfl rfl

end RemoteDesktop.Region
