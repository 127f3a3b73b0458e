import Mathlib.Data.List.Nodup
import RemoteDesktop.Keyboard.Keymap.History
import RemoteDesktop.Proofs.Keyboard.Typing

/-!
# Spare keycodes in turn

A keymap hands out its spare keycodes one after the other, and then from the first on, so what it knows besides the
keys of the reply are its latest assignments, as many as it has spare keycodes (`Keymap.InTurn`). The assignment that
has to go is the oldest of these, because it is the one of the keycode whose turn it is
(`Keymap.InTurn.mem_take_iff`). All else follows from that: what the keymap says about symbols and what it has noted
about spare keycodes are the same assignments, read forwards and backwards.

Main statement: `Keymap.spares_take_turns`.
-/

namespace RemoteDesktop

/-! ### What a reply lists -/

namespace KeyboardReply

variable {r : KeyboardReply} {keycode : UInt8} {keysym : UInt32} {i column : Nat}

theorem width_pos (r : KeyboardReply) : 0 < r.width := Nat.lt_of_lt_of_le Nat.zero_lt_one (Nat.le_max_left _ _)

/-- The key at a place of the reply. -/
def keyAt (r : KeyboardReply) (i : Nat) : Keymap.Key :=
  ⟨UInt8.ofNat (r.firstKeycode.toNat + i), (r.keysyms.drop (i * r.width)).take r.width⟩

/-- How many keys the reply lists. -/
def keyCount (r : KeyboardReply) : Nat :=
  min (256 - r.firstKeycode.toNat) ((r.keysyms.length + r.width - 1) / r.width)

theorem keys_eq (r : KeyboardReply) : r.keys = (List.range r.keyCount).map r.keyAt := by
  refine List.ext_getElem ?_ fun i hi _ => ?_
  · simp [keys, Keymap.keys, Keymap.stretches, keyCount, width]
  · simp [keys, Keymap.keys, Keymap.stretches, keyAt, width]

theorem lt_keyCount : i < r.keyCount ↔ r.firstKeycode.toNat + i < 256 ∧ i * r.width < r.keysyms.length := by
  have hwidth := r.width_pos
  have hrows : i < (r.keysyms.length + r.width - 1) / r.width ↔ i * r.width < r.keysyms.length := by
    rw [Nat.lt_iff_add_one_le, Nat.le_div_iff_mul_le hwidth, Nat.add_one_mul]
    omega
  rw [keyCount, Nat.lt_min, hrows]
  omega

/-- The keycode at a place is the first one and the place together, and fits a byte. -/
theorem toNat_keyAt (h : r.firstKeycode.toNat + i < 256) : (r.keyAt i).keycode.toNat = r.firstKeycode.toNat + i :=
  UInt8.toNat_ofNat_of_lt' h

/-- A keycode that fits has its symbols at its place. -/
theorem symbol?_keyAt (h : r.firstKeycode.toNat + i < 256) (column : Nat) :
    r.symbol? (r.keyAt i).keycode column = (r.keyAt i).symbols[column]? := by
  have hfirst : r.firstKeycode ≤ (r.keyAt i).keycode := by
    rw [UInt8.le_iff_toNat_le, toNat_keyAt h]
    omega
  rw [symbol?, toNat_keyAt h, Nat.add_sub_cancel_left, keyAt, List.getElem?_take]
  by_cases hcolumn : column < r.width
  · rw [if_pos ⟨hfirst, hcolumn⟩, if_pos hcolumn, List.getElem?_drop]
  · rw [if_neg fun hboth => hcolumn hboth.2, if_neg hcolumn]

/-- A keycode of which the reply says anything has a place. -/
theorem exists_keyAt {column : Nat} (h : r.symbol? keycode column = some keysym) :
    ∃ i < r.keyCount, (r.keyAt i).keycode = keycode := by
  rw [symbol?] at h
  split at h
  next hwithin =>
    have hfirst : r.firstKeycode.toNat ≤ keycode.toNat := hwithin.1
    have hlt := (List.getElem?_eq_some_iff.1 h).1
    have hbyte := keycode.toNat_lt
    have hfits : r.firstKeycode.toNat + (keycode.toNat - r.firstKeycode.toNat) < 256 := by omega
    refine ⟨keycode.toNat - r.firstKeycode.toNat, lt_keyCount.2 ⟨hfits, by omega⟩, ?_⟩
    rw [← UInt8.toNat_inj, toNat_keyAt hfits]
    omega
  next => cases h

theorem types_keyAt (h : r.firstKeycode.toNat + i < 256) :
    (r.keyAt i).types keysym = true ↔ r.Types (r.keyAt i).keycode keysym := by
  rw [Types, symbol?_keyAt h, Keymap.Key.types, List.head?_eq_getElem?]
  simp

theorem isSpare_keyAt (h : i < r.keyCount) : (r.keyAt i).isSpare = true ↔ r.IsSpare (r.keyAt i).keycode := by
  obtain ⟨hfits, hrow⟩ := lt_keyCount.1 h
  have hwidth := r.width_pos
  have hlisted : (r.keyAt i).symbols[0]? ≠ none := by
    rw [keyAt, List.getElem?_take, if_pos hwidth, List.getElem?_drop, ne_eq, List.getElem?_eq_none_iff]
    omega
  simp only [IsSpare, symbol?_keyAt hfits, Keymap.Key.isSpare, List.all_eq_true, beq_iff_eq]
  constructor
  · intro hzero
    exact ⟨hlisted, fun column keysym hsym => hzero keysym (List.mem_of_getElem? hsym)⟩
  · rintro ⟨-, hzero⟩ keysym hmem
    obtain ⟨column, hsym⟩ := List.getElem?_of_mem hmem
    exact hzero column keysym hsym

/-- A symbol belongs to the first keycode that types it. -/
theorem keycodes_keymap : r.keymap.keycodes keysym = some keycode ↔ r.IsKeyOf keycode keysym := by
  have hkeys : r.keymap.keycodes keysym =
      ((List.range r.keyCount).find? fun i => (r.keyAt i).types keysym).map fun i => (r.keyAt i).keycode := by
    rw [keymap, Keymap.ofReply, Keymap.ofKeys]
    change Option.map _ (r.keys.find? _) = _
    rw [keys_eq, List.find?_map, Option.map_map]
    rfl
  rw [hkeys, Option.map_eq_some_iff]
  constructor
  · rintro ⟨i, hi, rfl⟩
    obtain ⟨htypes, hlt, hbefore⟩ := List.find?_range_eq_some.1 hi
    have hfits := (lt_keyCount.1 (List.mem_range.1 hlt)).1
    refine ⟨(types_keyAt hfits).1 htypes, fun other hother hotypes => ?_⟩
    obtain ⟨j, hj, rfl⟩ := exists_keyAt hotypes.2
    have hjfits := (lt_keyCount.1 hj).1
    rw [UInt8.lt_iff_toNat_lt, toNat_keyAt hjfits, toNat_keyAt hfits] at hother
    have hnot := hbefore j (by omega)
    rw [(types_keyAt hjfits).2 hotypes] at hnot
    cases hnot
  · rintro ⟨htypes, hbefore⟩
    obtain ⟨i, hi, rfl⟩ := exists_keyAt htypes.2
    have hfits := (lt_keyCount.1 hi).1
    refine ⟨i, List.find?_range_eq_some.2 ⟨(types_keyAt hfits).2 htypes, List.mem_range.2 hi, fun j hj => ?_⟩, rfl⟩
    have hjfits : r.firstKeycode.toNat + j < 256 := by omega
    have hnot : ¬ (r.keyAt j).types keysym = true := by
      rw [types_keyAt hjfits]
      refine hbefore _ ?_
      rw [UInt8.lt_iff_toNat_lt, toNat_keyAt hjfits, toNat_keyAt hfits]
      omega
    simpa using hnot

theorem mem_spare_keymap : keycode ∈ r.keymap.spare ↔ r.IsSpare keycode := by
  change keycode ∈ (r.keys.filter Keymap.Key.isSpare).map (·.keycode) ↔ _
  rw [keys_eq, List.mem_map]
  constructor
  · rintro ⟨key, hkey, rfl⟩
    obtain ⟨hkey, hspare⟩ := List.mem_filter.1 hkey
    obtain ⟨i, hi, rfl⟩ := List.mem_map.1 hkey
    exact (isSpare_keyAt (List.mem_range.1 hi)).1 hspare
  · intro h
    obtain ⟨keysym, hkeysym⟩ := Option.ne_none_iff_exists'.1 h.1
    obtain ⟨i, hi, rfl⟩ := exists_keyAt hkeysym
    exact ⟨r.keyAt i, List.mem_filter.2 ⟨List.mem_map_of_mem (List.mem_range.2 hi), (isSpare_keyAt hi).2 h⟩, rfl⟩

/-- The keycodes of the keys are the first one and those that follow it. -/
theorem toNat_of_keys {key : Keymap.Key} (h : r.keys[i]? = some key) :
    key.keycode.toNat = r.firstKeycode.toNat + i := by
  rw [keys_eq, List.getElem?_map, Option.map_eq_some_iff] at h
  obtain ⟨j, hj, rfl⟩ := h
  obtain ⟨hlt, rfl⟩ := List.getElem?_eq_some_iff.1 hj
  rw [List.getElem_range]
  rw [List.length_range] at hlt
  exact toNat_keyAt (lt_keyCount.1 hlt).1

/-- No keycode is spare twice. -/
theorem nodup_spare_keymap (r : KeyboardReply) : r.keymap.spare.Nodup := by
  have hkeycodes : (r.keys.map (·.keycode)).Nodup := by
    rw [keys_eq, List.map_map]
    refine List.Nodup.map_on (fun i hi j hj heq => ?_) List.nodup_range
    have hi := (lt_keyCount.1 (List.mem_range.1 hi)).1
    have hj := (lt_keyCount.1 (List.mem_range.1 hj)).1
    have hnat : (r.keyAt i).keycode.toNat = (r.keyAt j).keycode.toNat := congrArg UInt8.toNat heq
    rw [toNat_keyAt hi, toNat_keyAt hj] at hnat
    omega
  exact hkeycodes.sublist (List.filter_sublist.map _)

/-- A spare keycode types nothing. -/
theorem IsSpare.not_types (h : r.IsSpare keycode) (keysym : UInt32) : ¬ r.Types keycode keysym :=
  fun htypes => htypes.1 (h.2 0 keysym htypes.2)

theorem IsSpare.not_isKeyOf (h : r.IsSpare keycode) (keysym : UInt32) : ¬ r.IsKeyOf keycode keysym :=
  fun hkey => h.not_types keysym hkey.1

end KeyboardReply

/-! ### The assignments -/

theorem DisplayRequest.ofAssignment_injective : Function.Injective ofAssignment := by
  rintro ⟨keycode, keysym⟩ ⟨keycode', keysym'⟩ heq
  cases heq
  rfl

namespace Keymap

/-- What a keymap that was read from a reply knows after it has handed out some spare keycodes for symbols. The
assignments are listed latest first. -/
structure InTurn (r : KeyboardReply) (made : List (UInt8 × UInt32)) (m : Keymap) : Prop where
  spare : m.spare = r.keymap.spare
  assigned : m.assigned.toNat = made.length
  /-- The spare keycodes are handed out one after the other, and then from the first on. -/
  turns (i : Nat) (a : UInt8 × UInt32) : made.reverse[i]? = some a → m.spare[i % m.spare.length]? = some a.1
  /-- The keymap knows the keys of the reply, and the latest assignments, one for each spare keycode. -/
  keycodes (keysym : UInt32) (keycode : UInt8) :
    m.keycodes keysym = some keycode ↔ r.IsKeyOf keycode keysym ∨ (keycode, keysym) ∈ made.take m.spare.length
  bound (keycode : UInt8) (keysym : UInt32) :
    m.bound keycode = some keysym ↔ (keycode, keysym) ∈ made.take m.spare.length
  /-- No symbol has two of these. -/
  nodup_keysyms : ((made.take m.spare.length).map (·.2)).Nodup
  /-- No symbol that has a key was ever given a spare keycode. -/
  additional (a : UInt8 × UInt32) : a ∈ made → ∀ keycode, ¬ r.IsKeyOf keycode a.2

/-- Of the last `n` turns, only the first was that of the keycode whose turn it is again. -/
theorem turn_iff {total i n : Nat} (htotal : i < total) (hn : i < n) : (total - 1 - i) % n = total % n ↔ i = n - 1 := by
  constructor
  · intro heq
    have hdivides : (total - (total - 1 - i)) % n = 0 := Nat.sub_mod_eq_zero_of_mod_eq heq.symm
    have hback : total - (total - 1 - i) = i + 1 := by omega
    rw [hback] at hdivides
    by_cases hlast : i + 1 < n
    · rw [Nat.mod_eq_of_lt hlast] at hdivides
      cases hdivides
    · omega
  · intro heq
    have hback : total = total - 1 - i + n := by omega
    rw [hback, Nat.add_mod_right]
    congr 1
    omega

namespace InTurn

variable {r : KeyboardReply} {made : List (UInt8 × UInt32)} {m : Keymap} {keycode : UInt8} {keysym : UInt32}
  {a : UInt8 × UInt32}

theorem read (r : KeyboardReply) : InTurn r [] r.keymap where
  spare := rfl
  assigned := rfl
  turns := nofun
  keycodes keysym keycode := by simp [KeyboardReply.keycodes_keymap]
  bound keycode keysym := by simp [KeyboardReply.keymap, ofReply, ofKeys]
  nodup_keysyms := by simp
  additional := nofun

/-- When the turn of a spare keycode comes, the assignments that stay are those of other keycodes. -/
theorem mem_take_iff (h : InTurn r made m) (hnext : m.nextSpare? = some keycode) :
    a ∈ made.take (m.spare.length - 1) ↔ a ∈ made.take m.spare.length ∧ a.1 ≠ keycode := by
  have hnodup : m.spare.Nodup := by
    rw [h.spare]
    exact r.nodup_spare_keymap
  rw [nextSpare?, h.assigned] at hnext
  have hturn {i : Nat} (hi : i < made.length) (hlast : i < m.spare.length) (ha : made[i] = a) :
      a.1 = keycode ↔ i = m.spare.length - 1 := by
    have hkeycode := h.turns (made.length - 1 - i) a (by
      rw [List.getElem?_reverse (by omega), List.getElem?_eq_some_iff]
      exact ⟨by omega, by rw [← ha]; congr 1; omega⟩)
    obtain ⟨hfirst, hfirsteq⟩ := List.getElem?_eq_some_iff.1 hkeycode
    obtain ⟨hsecond, hsecondeq⟩ := List.getElem?_eq_some_iff.1 hnext
    rw [← hfirsteq, ← hsecondeq, hnodup.getElem_inj_iff, turn_iff hi hlast]
  simp only [List.mem_take_iff_getElem]
  constructor
  · rintro ⟨i, hi, ha⟩
    exact ⟨⟨i, by omega, ha⟩, fun heq => absurd ((hturn (by omega) (by omega) ha).1 heq) (by omega)⟩
  · rintro ⟨⟨i, hi, ha⟩, hne⟩
    have hnotlast : i ≠ m.spare.length - 1 := fun heq => hne ((hturn (by omega) (by omega) ha).2 heq)
    exact ⟨i, by omega, ha⟩

/-! A symbol that the keymap does not know is given the spare keycode whose turn it is. -/

section Hand

variable (h : InTurn r made m) (hnext : m.nextSpare? = some keycode) (hnew : m.keycodes keysym = none)
include h hnext

/-- The latest assignments are then the new one and those that stay. -/
theorem take_cons_iff : a ∈ ((keycode, keysym) :: made).take m.spare.length ↔
    a = (keycode, keysym) ∨ a ∈ made.take m.spare.length ∧ a.1 ≠ keycode := by
  have hpos : 0 < m.spare.length := List.length_pos_of_mem (mem_spare_of_nextSpare? hnext)
  rw [List.take_cons hpos, List.mem_cons, h.mem_take_iff hnext]

omit hnext in
include hnew in
theorem unknown (other : UInt8) : ¬ r.IsKeyOf other keysym ∧ (other, keysym) ∉ made.take m.spare.length := by
  have hno : ¬ m.keycodes keysym = some other := by simp [hnew]
  rwa [h.keycodes, not_or] at hno

include hnew in
theorem keycodes_hand_iff (other : UInt32) (keycode' : UInt8) :
    (m.hand keycode keysym).keycodes other = some keycode' ↔
      r.IsKeyOf keycode' other ∨ (keycode', other) ∈ ((keycode, keysym) :: made).take m.spare.length := by
  rw [h.take_cons_iff hnext, Prod.mk.injEq]
  simp only [Keymap.hand]
  by_cases heq : other = keysym
  · subst heq
    obtain ⟨hnokey, hnomem⟩ := h.unknown hnew keycode'
    simp [hnokey, hnomem, eq_comm]
  rw [if_neg heq]
  split
  next hevicted =>
    have hold := (h.bound keycode other).1 hevicted
    have hnokey : ¬ r.IsKeyOf keycode' other := h.additional _ (List.mem_of_mem_take hold) keycode'
    have hgone : (keycode', other) ∈ made.take m.spare.length → keycode' = keycode := by
      intro hmem
      exact Option.some_inj.1 (((h.keycodes _ _).2 (.inr hmem)).symm.trans ((h.keycodes _ _).2 (.inr hold)))
    simpa [heq, hnokey] using hgone
  next hkept =>
    have hstays : (keycode', other) ∈ made.take m.spare.length → keycode' ≠ keycode := by
      rintro hmem rfl
      exact hkept ((h.bound _ other).2 hmem)
    rw [h.keycodes other keycode']
    simp only [heq, and_false, false_or]
    exact or_congr_right ⟨fun hmem => ⟨hmem, hstays hmem⟩, fun hmem => hmem.1⟩

theorem bound_hand_iff (keycode' : UInt8) (other : UInt32) :
    (m.hand keycode keysym).bound keycode' = some other ↔
      (keycode', other) ∈ ((keycode, keysym) :: made).take m.spare.length := by
  rw [h.take_cons_iff hnext, Prod.mk.injEq]
  simp only [Keymap.hand]
  by_cases heq : keycode' = keycode
  · simp [heq, eq_comm]
  · simp [heq, h.bound keycode' other]

include hnew in
theorem nodup_keysyms_hand : ((((keycode, keysym) :: made).take m.spare.length).map (·.2)).Nodup := by
  have hpos : 0 < m.spare.length := List.length_pos_of_mem (mem_spare_of_nextSpare? hnext)
  rw [List.take_cons hpos, List.map_cons, List.nodup_cons]
  refine ⟨fun hmem => ?_, h.nodup_keysyms.sublist ((List.take_sublist_take_left (Nat.sub_le _ _)).map _)⟩
  obtain ⟨⟨other, _⟩, ha, rfl⟩ := List.mem_map.1 hmem
  exact (h.unknown hnew other).2 ((h.mem_take_iff hnext).1 ha).1

theorem turns_hand (i : Nat) (ha : ((keycode, keysym) :: made).reverse[i]? = some a) :
    m.spare[i % m.spare.length]? = some a.1 := by
  rw [List.reverse_cons, List.getElem?_append] at ha
  split at ha
  · exact h.turns i a ha
  next hi =>
    have hlt := (List.getElem?_eq_some_iff.1 ha).1
    rw [List.length_reverse] at hi ha hlt
    have hlast : i = made.length := by
      rw [List.length_singleton] at hlt
      omega
    subst hlast
    rw [Nat.sub_self] at ha
    cases ha
    rwa [nextSpare?, h.assigned] at hnext

include hnew in
theorem hand (hcount : made.length + 1 < 2 ^ 64) :
    InTurn r ((keycode, keysym) :: made) (m.hand keycode keysym) where
  spare := h.spare
  assigned := by
    have hone : (m.assigned + 1).toNat = (m.assigned.toNat + 1) % 2 ^ 64 := UInt64.toNat_add _ _
    rwa [h.assigned, Nat.mod_eq_of_lt hcount] at hone
  turns i a := h.turns_hand hnext i
  keycodes := h.keycodes_hand_iff hnext hnew
  bound := h.bound_hand_iff hnext
  nodup_keysyms := h.nodup_keysyms_hand hnext hnew
  additional a ha := by
    rcases List.mem_cons.1 ha with rfl | ha
    · exact fun other => (h.unknown hnew other).1
    · exact h.additional a ha

end Hand

/-- No spare keycode is given to two symbols. -/
theorem nodup_keycodes (h : InTurn r made m) : ((made.take m.spare.length).map (·.1)).Nodup := by
  refine h.nodup_keysyms.of_map _ |>.map_on fun a ha b hb heq => ?_
  have hsame : m.bound a.1 = some b.2 := (h.bound a.1 b.2).2 (heq ▸ hb)
  exact Prod.ext heq (Option.some_inj.1 (((h.bound a.1 a.2).2 ha).symm.trans hsame))

/-- No two symbols share a spare keycode. -/
theorem keysym_unique {other : UInt32} (h : InTurn r made m) (hspare : r.IsSpare keycode)
    (hfirst : m.keycodes keysym = some keycode) (hsecond : m.keycodes other = some keycode) : keysym = other := by
  have hbound {symbol : UInt32} (hknown : m.keycodes symbol = some keycode) : m.bound keycode = some symbol := by
    rw [h.bound]
    exact ((h.keycodes symbol keycode).1 hknown).resolve_left (hspare.not_isKeyOf symbol)
  exact Option.some_inj.1 ((hbound hfirst).symm.trans (hbound hsecond))

end InTurn

/-! ### Presses -/

variable {refuse : Refusals} {keysym : UInt32} {m : Keymap} {d : Display}

/-- A press finds the keycode that the keymap has for its symbol, or there is no spare keycode, or the one whose turn it
is is handed out, and the display is asked to bind it. -/
theorem keycodeFor_cases (refuse : Refusals) (keysym : UInt32) (m : Keymap) (d : Display) :
    (∃ keycode, m.keycodes keysym = some keycode ∧ keycodeFor refuse keysym true m d = (.ok keycode, m, d)) ∨
      (m.spare = [] ∧ keycodeFor refuse keysym true m d = (.error (.noSpareKeycode keysym), m, d)) ∨
        ∃ keycode after, m.keycodes keysym = none ∧ m.nextSpare? = some keycode ∧
          after.requests = .bind keycode keysym :: d.requests ∧
            keycodeFor refuse keysym true m d =
              (match refuse (.bind keycode keysym) with
                | some failure => .error (.injection failure.text)
                | none => .ok keycode, m.hand keycode keysym, after) := by
  cases hkeycode : m.keycodes keysym with
  | some keycode => exact .inl ⟨keycode, rfl, by simp only [keycodeFor, hkeycode]⟩
  | none =>
    cases hassign : m.assignSpare keysym with
    | none =>
      exact .inr (.inl ⟨assignSpare_eq_none_iff.1 hassign, by simp only [keycodeFor, hkeycode, hassign, if_true]⟩)
    | some assigned =>
      obtain ⟨keycode, next⟩ := assigned
      obtain ⟨hnext, rfl⟩ := assignSpare_eq_some_iff.1 hassign
      refine .inr (.inr ⟨keycode, (request refuse (.bind keycode keysym) d).2, rfl, hnext, ?_, ?_⟩)
      · cases hbind : refuse (.bind keycode keysym) with
        | some failure => rw [request_refused hbind]
        | none => rw [request_granted hbind, Display.carryOut]
      · cases hbind : refuse (.bind keycode keysym) with
        | some failure => simp only [keycodeFor, hkeycode, hassign, if_true, request_refused hbind]
        | none => simp only [keycodeFor, hkeycode, hassign, if_true, request_granted hbind]

section Presses

variable {r : KeyboardReply} {made : List (UInt8 × UInt32)} {s : Keymap × Display}

theorem inTurn_press (h : InTurn r made s.1) (hcount : made.length + 1 < 2 ^ 64) (p : Press) :
    ∃ new : List (UInt8 × UInt32), new.length ≤ 1 ∧
      (press s p).2.requests = new.map .ofAssignment ++ s.2.requests ∧
        InTurn r (new ++ made) (press s p).1 := by
  rw [press]
  obtain ⟨keycode, -, hpress⟩ | ⟨-, hpress⟩ | ⟨keycode, after, hnew, hnext, hrequests, hpress⟩ :=
    keycodeFor_cases p.refuse p.keysym s.1 s.2
  · rw [hpress]
    exact ⟨[], Nat.zero_le _, rfl, h⟩
  · rw [hpress]
    exact ⟨[], Nat.zero_le _, rfl, h⟩
  · rw [hpress]
    exact ⟨[(keycode, p.keysym)], Nat.le_refl _, hrequests, h.hand hnext hnew hcount⟩

theorem inTurn_pressAll (h : InTurn r made s.1) (presses : List Press) (hcount : made.length + presses.length < 2 ^ 64) :
    ∃ new : List (UInt8 × UInt32), (pressAll s presses).2.requests = new.map .ofAssignment ++ s.2.requests ∧
      InTurn r (new ++ made) (pressAll s presses).1 := by
  induction presses generalizing s made with
  | nil => exact ⟨[], rfl, h⟩
  | cons p presses ih =>
    rw [List.length_cons] at hcount
    obtain ⟨first, hone, hfirst, hafter⟩ := inTurn_press h (by omega) p
    obtain ⟨rest, hrest, hlast⟩ := ih hafter (by rw [List.length_append]; omega)
    refine ⟨rest ++ first, ?_, by rwa [List.append_assoc]⟩
    rw [List.map_append, List.append_assoc, ← hfirst]
    exact hrest

end Presses

/-- **Spare keycodes are handed out in turn, and the oldest assignment goes first.** Whatever a reply to a reader of the
mapping says, and whatever is pressed afterwards, whether or not the display grants the bindings: the keymap knows the
keys of the reply, each symbol on the first keycode that types it, and the latest assignments, as many as there are spare
keycodes, and nothing else. No two symbols share a spare keycode, and no spare keycode is a key of the reply. A press
lacks a spare keycode only if the reply has none. The keycodes of the reply are the first one and those that follow
it, as far as they fit a byte. -/
theorem spares_take_turns (r : KeyboardReply) (d : Display) (presses : List Press) (hcount : presses.length < 2 ^ 64) :
    let s := pressAll (r.keymap, d) presses
    let spare := r.keymap.spare
    (∀ i key, r.keys[i]? = some key → key.keycode.toNat = r.firstKeycode.toNat + i) ∧
      spare.Nodup ∧ (∀ keycode, keycode ∈ spare ↔ r.IsSpare keycode) ∧
      (∀ keycode, r.IsSpare keycode → ∀ keysym, ¬ r.IsKeyOf keycode keysym) ∧
      (∃ made : List (UInt8 × UInt32), s.2.requests = made.map .ofAssignment ++ d.requests ∧
        (∀ i a, made.reverse[i]? = some a → spare[i % spare.length]? = some a.1) ∧
        (∀ a ∈ made, ∀ keycode, ¬ r.IsKeyOf keycode a.2) ∧
        (∀ keysym keycode, s.1.keycodes keysym = some keycode ↔
          r.IsKeyOf keycode keysym ∨ (keycode, keysym) ∈ made.take spare.length) ∧
        ((made.take spare.length).map (·.1)).Nodup ∧ ((made.take spare.length).map (·.2)).Nodup) ∧
      (∀ keysym other keycode, r.IsSpare keycode → s.1.keycodes keysym = some keycode →
        s.1.keycodes other = some keycode → keysym = other) ∧
      ∀ refuse keysym,
        let (answer, after, _) := keycodeFor refuse keysym true s.1 s.2
        (∀ lacking, answer = .error (.noSpareKeycode lacking) → ∀ keycode, ¬ r.IsSpare keycode) ∧
          ((∃ keycode, r.IsSpare keycode) → (∀ keycode, refuse (.bind keycode keysym) = none) →
            ∃ keycode, answer = .ok keycode ∧ after.keycodes keysym = some keycode) := by
  intro s spare
  obtain ⟨made, hrequests, hturn⟩ := inTurn_pressAll (s := (r.keymap, d)) (.read r) presses (by simpa using hcount)
  rw [List.append_nil] at hturn
  have hspare : s.1.spare = spare := hturn.spare
  refine ⟨fun i key => KeyboardReply.toNat_of_keys, r.nodup_spare_keymap, fun keycode => KeyboardReply.mem_spare_keymap,
    fun keycode => KeyboardReply.IsSpare.not_isKeyOf, ⟨made, hrequests, ?_, hturn.additional, ?_, ?_, ?_⟩,
    fun keysym other keycode => hturn.keysym_unique, fun refuse keysym => ?_⟩
  · exact hspare ▸ hturn.turns
  · exact hspare ▸ hturn.keycodes
  · exact hspare ▸ hturn.nodup_keycodes
  · exact hspare ▸ hturn.nodup_keysyms
  · obtain ⟨keycode, hknown, hpress⟩ | ⟨hnone, hpress⟩ | ⟨keycode, after, hnew, hnext, -, hpress⟩ :=
      keycodeFor_cases refuse keysym s.1 s.2
    · rw [hpress]
      exact ⟨nofun, fun _ _ => ⟨keycode, rfl, hknown⟩⟩
    · have hempty (keycode : UInt8) : ¬ r.IsSpare keycode := by
        rw [← KeyboardReply.mem_spare_keymap, ← hturn.spare, hnone]
        exact List.not_mem_nil
      rw [hpress]
      exact ⟨fun _ _ => hempty, fun ⟨keycode, hkeycode⟩ _ => absurd hkeycode (hempty keycode)⟩
    · rw [hpress]
      refine ⟨fun lacking hlacking => ?_, fun _ hgranted => ⟨keycode, ?_, if_pos rfl⟩⟩
      · cases hbind : refuse (.bind keycode keysym) with
        | some failure =>
          rw [hbind] at hlacking
          cases hlacking
        | none =>
          rw [hbind] at hlacking
          cases hlacking
      · simp only [hgranted keycode]

/-- Two keys with two symbols each, and two keycodes without symbols. -/
def twoSpares : KeyboardReply := ⟨8, 2, [0x61, 0x41, 0x62, 0x42, 0, 0, 0, 0]⟩

/-- The third symbol takes the keycode of the first, which has no keycode any more; the keys stay. -/
theorem spares_take_turns_evicting :
    let presses : List Press := [⟨.never, 0x010020AC⟩, ⟨.never, 0xE9⟩, ⟨.never, 0x61⟩, ⟨.never, 0x01004E2D⟩]
    let s := pressAll (twoSpares.keymap, ⟨⟨64, 32⟩, ⟨64, 32⟩, ⟨8, []⟩, 11, []⟩) presses
    presses.length < 2 ^ 64 ∧ twoSpares.keymap.spare = [10, 11] ∧
      s.2.requests = [.bind 10 0x01004E2D, .bind 11 0xE9, .bind 10 0x010020AC] ∧
      (∀ keysym keycode, s.1.keycodes keysym = some keycode ↔
        twoSpares.IsKeyOf keycode keysym ∨ (keycode, keysym) ∈ [(10, 0x01004E2D), (11, 0xE9)]) ∧
      s.1.keycodes 0x010020AC = none ∧ s.1.keycodes 0x61 = some 8 := by
  intro presses s
  have hcount : presses.length < 2 ^ 64 := by decide
  have hrequests : s.2.requests = [.bind 10 0x01004E2D, .bind 11 0xE9, .bind 10 0x010020AC] := by decide
  obtain ⟨-, -, -, -, ⟨made, hmade, -, -, hkeycodes, -⟩, -⟩ :=
    spares_take_turns twoSpares ⟨⟨64, 32⟩, ⟨64, 32⟩, ⟨8, []⟩, 11, []⟩ presses hcount
  have hknown : made = [(10, 0x01004E2D), (11, 0xE9), (10, 0x010020AC)] :=
    List.map_injective_iff.2 DisplayRequest.ofAssignment_injective
      (((List.append_nil _).symm.trans hmade.symm).trans hrequests)
  rw [hknown] at hkeycodes
  exact ⟨hcount, by decide, hrequests, hkeycodes, by decide, by decide⟩

end Keymap

end RemoteDesktop
