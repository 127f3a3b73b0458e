import Mathlib.Data.List.Induction
import RemoteDesktop.Proofs.Bytes
import RemoteDesktop.Wire.Parts.History

/-!
# Updates are assembled whole

What an assembler has is what the parts gathered so far make (`Gathers`). A push either adds its part to them or clears
them, and a message that is no part changes nothing (`Outcome.gathers`); so the same holds after any messages
(`gathers_run`). Main statement: `updates_are_whole`.
-/

namespace RemoteDesktop.Wire

/-! ### What parts make -/

theorem not_joins_nil (u : Update) : ¬ Joins [] u := fun ⟨_, h, _⟩ => nomatch h

theorem joins_singleton_iff {part u : Update} : Joins [part] u ↔ u = part := by
  constructor
  · rintro ⟨first, hfirst, rfl, -⟩
    obtain rfl := Option.some.inj hfirst
    simp
  · rintro rfl
    exact ⟨_, rfl, by simp, by simp⟩

theorem Joins.unique {parts : List Update} {u v : Update} (hu : Joins parts u) (hv : Joins parts v) : u = v := by
  obtain ⟨first, hfirst, rfl, -⟩ := hu
  obtain ⟨first', hfirst', rfl, -⟩ := hv
  obtain rfl := Option.some.inj (hfirst.symm.trans hfirst')
  rfl

/-- One part more can be joined exactly if it carries the number of the others, and adds its rectangles. -/
theorem joins_concat_iff {parts : List Update} {v : Update} (h : Joins parts v) {part u : Update} :
    Joins (parts ++ [part]) u ↔ part.sequence = v.sequence ∧ u = { v with rects := v.rects ++ part.rects } := by
  obtain ⟨first, hfirst, rfl, hall⟩ := h
  have hhead : (parts ++ [part]).head? = some first := by rw [List.head?_append, hfirst, Option.some_or]
  have hrects : (parts ++ [part]).flatMap (·.rects) = parts.flatMap (·.rects) ++ part.rects := by
    rw [List.flatMap_append, List.flatMap_singleton]
  constructor
  · rintro ⟨first', hfirst', rfl, hall'⟩
    obtain rfl := Option.some.inj (hhead.symm.trans hfirst')
    exact ⟨hall' part (List.mem_append_right _ List.mem_cons_self), by rw [hrects]⟩
  · rintro ⟨hpart, rfl⟩
    refine ⟨first, hhead, by rw [hrects], fun p hp => ?_⟩
    rcases List.mem_append.1 hp with hp | hp
    · exact hall p hp
    · obtain rfl := List.mem_singleton.1 hp
      exact hpart

namespace Assembler

/-! ### Histories -/

theorem run_concat (a : Assembler) (messages : List ServerMessage) (m : ServerMessage) :
    a.run (messages ++ [m]) = ((a.run messages).push m).2 := by
  simp [run, List.foldl_append]

theorem history_concat (a : Assembler) (messages : List ServerMessage) (m : ServerMessage) :
    a.history (messages ++ [m]) = a.history messages ++ [⟨m, ((a.run messages).push m).1⟩] := by
  induction messages generalizing a with
  | nil => rfl
  | cons first messages ih =>
    rw [List.cons_append, history, ih, history, List.cons_append]
    rfl

theorem gathered_concat (h : List Push) (p : Push) :
    gathered (h ++ [p]) = if p.clears then [] else gathered h ++ p.message.part?.toList := by
  rw [gathered, List.reverse_append, List.reverse_singleton, List.singleton_append, List.takeWhile_cons]
  cases p.clears with
  | true => rfl
  | false =>
    simp only [Bool.not_false, if_true, Bool.false_eq_true, if_false, List.reverse_cons, List.filterMap_append]
    congr 1

/-! ### One push -/

/-- The assembler has what the parts make. -/
inductive Gathers (a : Assembler) (parts : List Update) : Prop where
  | nothing : a.pending = none → parts = [] → Gathers a parts
  | pending (u : Update) : a.pending = some u → Joins parts u → Gathers a parts

namespace Gathers

variable {a : Assembler} {parts : List Update}

theorem pending_iff (h : a.Gathers parts) (u : Update) : a.pending = some u ↔ Joins parts u := by
  cases h with
  | nothing hpending hparts =>
    rw [hpending, hparts]
    exact iff_of_false nofun (not_joins_nil u)
  | pending v hpending hv =>
    rw [hpending, Option.some.injEq]
    constructor
    · rintro rfl
      exact hv
    · exact hv.unique

theorem pending_eq_none_iff (h : a.Gathers parts) : a.pending = none ↔ parts = [] := by
  cases h with
  | nothing hpending hparts => exact iff_of_true hpending hparts
  | pending v hpending hv =>
    refine iff_of_false (by rw [hpending]; nofun) fun hparts => not_joins_nil v ?_
    rwa [← hparts]

end Gathers

/-- What may come of a push on top of parts: the answer, and the assembler after it. -/
inductive Outcome (parts : List Update) (a : Assembler) :
    ServerMessage → Except AssemblyError (Option Update) × Assembler → Prop where
  | returned {closing u : Update} :
    Joins (parts ++ [closing]) u → Outcome parts a (.update closing) (.ok (some u), {})
  | kept {part u : Update} :
    Joins (parts ++ [part]) u → Outcome parts a (.updatePart part) (.ok none, { pending := some u })
  | dropped {m : ServerMessage} {part v : Update} :
    m.part? = some part → a.pending = some v → part.sequence ≠ v.sequence → (∀ u, ¬ Joins (parts ++ [part]) u) →
      Outcome parts a m (.error .outOfSequence, {})
  | ignored {m : ServerMessage} : m.part? = none → Outcome parts a m (.error .notAnUpdate, a)

namespace Gathers

variable {a : Assembler} {parts : List Update}

/-- A part is joined to the parts before it, or dropped with them because it carries another number. -/
theorem join_cases (h : a.Gathers parts) (part : Update) :
    (∃ u, Joins (parts ++ [part]) u ∧ ∀ closing,
      a.join part closing = if closing then (.ok (some u), {}) else (.ok none, { pending := some u })) ∨
    (∃ v, a.pending = some v ∧ part.sequence ≠ v.sequence ∧ (∀ u, ¬ Joins (parts ++ [part]) u) ∧ ∀ closing,
      a.join part closing = (.error .outOfSequence, {})) := by
  cases h with
  | nothing hpending hparts =>
    refine Or.inl ⟨part, ?_, fun closing => ?_⟩
    · rw [hparts, List.nil_append]
      exact joins_singleton_iff.2 rfl
    · simp only [Assembler.join, hpending]
  | pending v hpending hv =>
    by_cases hsame : part.sequence = v.sequence
    · refine Or.inl ⟨_, (joins_concat_iff hv).2 ⟨hsame, rfl⟩, fun closing => ?_⟩
      simp only [Assembler.join, hpending, if_pos hsame.symm]
    · refine Or.inr ⟨v, hpending, hsame, fun u hu => hsame ((joins_concat_iff hv).1 hu).1, fun closing => ?_⟩
      simp only [Assembler.join, hpending, if_neg (Ne.symm hsame)]

theorem outcome (h : a.Gathers parts) (m : ServerMessage) : Outcome parts a m (a.push m) := by
  cases m with
  | challenge | verdict => exact .ignored rfl
  | update part =>
    rw [Assembler.push]
    rcases h.join_cases part with ⟨u, hu, hjoin⟩ | ⟨v, hpending, hne, hnone, hjoin⟩
    · rw [hjoin]
      exact .returned hu
    · rw [hjoin]
      exact .dropped rfl hpending hne hnone
  | updatePart part =>
    rw [Assembler.push]
    rcases h.join_cases part with ⟨u, hu, hjoin⟩ | ⟨v, hpending, hne, hnone, hjoin⟩
    · rw [hjoin]
      exact .kept hu
    · rw [hjoin]
      exact .dropped rfl hpending hne hnone

end Gathers

/-- After a push the assembler has what the parts gathered until then make. -/
theorem Outcome.gathers {h : List Push} {a : Assembler} {m : ServerMessage}
    {result : Except AssemblyError (Option Update) × Assembler} (ha : a.Gathers (gathered h))
    (hm : Outcome (gathered h) a m result) : result.2.Gathers (gathered (h ++ [⟨m, result.1⟩])) := by
  rw [gathered_concat]
  cases hm with
  | returned | dropped => exact .nothing rfl rfl
  | kept hu => exact .pending _ rfl hu
  | ignored hpart =>
    rw [hpart]
    show a.Gathers (gathered h ++ [])
    rwa [List.append_nil]

/-- Whatever was pushed, a new assembler has what the parts make that it was given since it had nothing. -/
theorem gathers_run (messages : List ServerMessage) :
    (run {} messages).Gathers (gathered (history {} messages)) := by
  induction messages using List.reverseRecOn with
  | nil => exact .nothing rfl rfl
  | append_singleton messages m ih =>
    rw [run_concat, history_concat]
    exact (ih.outcome m).gathers ih

/-! ### Any push -/

/-- The answer to a message, and what the assembler has after it, as the parts since it had nothing settle them. -/
structure Assembles (parts : List Update) (a : Assembler) (m : ServerMessage)
    (result : Except AssemblyError (Option Update) × Assembler) : Prop where
  /-- What is pending is what the parts make. -/
  pending_iff : ∀ u, a.pending = some u ↔ Joins parts u
  pending_eq_none_iff : a.pending = none ↔ parts = []
  /-- An update is given away for its last part, and made of all of its parts. -/
  returns : ∀ u, result.1 = .ok (some u) ↔ ∃ closing, m = .update closing ∧ Joins (parts ++ [closing]) u
  /-- Any other part is kept with those before it. -/
  keeps : ∀ u, result = (.ok none, { pending := some u }) ↔ ∃ part, m = .updatePart part ∧ Joins (parts ++ [part]) u
  /-- A part of another update is dropped, and nothing is left pending. -/
  drops : ∀ part ∈ m.part?, ∀ u ∈ a.pending, part.sequence ≠ u.sequence → result = (.error .outOfSequence, {})
  /-- A message that is no part changes nothing. -/
  ignores : m.part? = none → result = (.error .notAnUpdate, a)

section

variable {parts : List Update} {a : Assembler} {m : ServerMessage}
  {result : Except AssemblyError (Option Update) × Assembler}

/-- A part that can be joined to those before it carries their number. -/
theorem Gathers.sequence_eq (h : a.Gathers parts) {part u v : Update} (hu : Joins (parts ++ [part]) u)
    (hv : a.pending = some v) : part.sequence = v.sequence :=
  ((joins_concat_iff ((h.pending_iff v).1 hv)).1 hu).1

/-- A part that can be joined to those before it is joined. -/
theorem Outcome.of_joins (h : Outcome parts a m result) {part u : Update} (hpart : m.part? = some part)
    (hu : Joins (parts ++ [part]) u) :
    m = .update part ∧ result = (.ok (some u), {}) ∨ m = .updatePart part ∧ result = (.ok none, { pending := some u }) := by
  cases h with
  | returned hv =>
    obtain rfl := Option.some.inj hpart
    exact Or.inl ⟨rfl, by rw [hv.unique hu]⟩
  | kept hv =>
    obtain rfl := Option.some.inj hpart
    exact Or.inr ⟨rfl, by rw [hv.unique hu]⟩
  | dropped hsome _ _ hnone =>
    obtain rfl := Option.some.inj (hsome.symm.trans hpart)
    exact absurd hu (hnone u)
  | ignored hnone =>
    rw [hnone] at hpart
    cases hpart

theorem Outcome.returns_iff (h : Outcome parts a m result) (u : Update) :
    result.1 = .ok (some u) ↔ ∃ closing, m = .update closing ∧ Joins (parts ++ [closing]) u := by
  constructor
  · intro hresult
    cases h with
    | returned hv =>
      cases hresult
      exact ⟨_, rfl, hv⟩
    | kept | dropped | ignored => cases hresult
  · rintro ⟨closing, rfl, hu⟩
    rcases h.of_joins rfl hu with ⟨-, rfl⟩ | ⟨hm, -⟩
    · rfl
    · cases hm

theorem Outcome.keeps_iff (h : Outcome parts a m result) (u : Update) :
    result = (.ok none, { pending := some u }) ↔ ∃ part, m = .updatePart part ∧ Joins (parts ++ [part]) u := by
  constructor
  · rintro rfl
    cases h with
    | kept hv => exact ⟨_, rfl, hv⟩
  · rintro ⟨part, rfl, hu⟩
    rcases h.of_joins rfl hu with ⟨hm, -⟩ | ⟨-, rfl⟩
    · cases hm
    · rfl

theorem Outcome.assembles (ha : a.Gathers parts) (h : Outcome parts a m result) : Assembles parts a m result := by
  refine ⟨ha.pending_iff, ha.pending_eq_none_iff, h.returns_iff, h.keeps_iff, fun part hpart v hv hne => ?_,
    fun hpart => ?_⟩
  · cases h with
    | returned hu | kept hu =>
      obtain rfl := Option.some.inj hpart
      exact absurd (ha.sequence_eq hu hv) hne
    | dropped => rfl
    | ignored hnone =>
      rw [hnone] at hpart
      cases hpart
  · cases h with
    | returned | kept => cases hpart
    | dropped hsome =>
      rw [hsome] at hpart
      cases hpart
    | ignored => rfl

end

/-- **Updates are assembled whole.** Whatever was pushed into a new assembler, the next message is answered with an
update exactly if it is the last part of one whose other parts are the ones gathered, and it is the update that they
make. A part of another update is an error and leaves nothing pending; a message that is no part is an error and changes
nothing. -/
theorem updates_are_whole (messages : List ServerMessage) (m : ServerMessage) :
    Assembles (gathered (history {} messages)) (run {} messages) m ((run {} messages).push m) :=
  ((gathers_run messages).outcome m).assembles (gathers_run messages)

/-- What follows a dropped part starts afresh, even if it belongs to the update whose parts were dropped with it. -/
example (size : Size) (a b : Rect) :
    let part (sequence : UInt64) (rect : Rect) : Update := ⟨sequence, size, .raw, .diff, [rect]⟩
    (history {} [.updatePart (part 7 a), .verdict true, .update (part 7 b), .updatePart (part 8 a), .update (part 9 b),
      .update (part 8 b)]).map (·.answer) =
      [.ok none, .error .notAnUpdate, .ok (some ⟨7, size, .raw, .diff, [a, b]⟩), .ok none, .error .outOfSequence,
        .ok (some (part 8 b))] := rfl

end Assembler

end RemoteDesktop.Wire
