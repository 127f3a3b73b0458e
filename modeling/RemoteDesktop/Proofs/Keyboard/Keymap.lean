import RemoteDesktop.Keyboard.Typist
import RemoteDesktop.Proofs.Bytes

/-!
# What a keymap says about the display

A keymap that has just been read is right (`Keymap.reads_load`): a keycode it has for a symbol types that symbol, and
a spare keycode types nothing. Whatever spare keycodes are handed out afterwards, a keymap has a spare keycode for no
symbol but the one it was handed out for last (`Keymap.Coherent`).
-/

namespace RemoteDesktop

/-! ### Rows and stretches -/

namespace KeyboardMapping

theorem length_padRow (width : Nat) (row : List UInt32) : (padRow width row).length = width := by
  rw [padRow, List.length_append, List.length_take, List.length_replicate]
  omega

/-- Padding adds no symbols. -/
theorem head?_padRow {width : Nat} (hwidth : 0 < width) (row : List UInt32) :
    (padRow width row).head? = some (row.headD 0) := by
  cases width with
  | zero => exact absurd hwidth (Nat.lt_irrefl 0)
  | succ width => cases row <;> rfl

theorem toNat_width (m : KeyboardMapping) : (UInt8.ofNat m.width).toNat = m.width :=
  UInt8.toNat_ofNat_of_lt' (Nat.lt_succ_of_le (Nat.min_le_left _ _))

end KeyboardMapping

namespace Keymap

section Stretches

variable {width : Nat} {rows : List (List UInt32)}

theorem length_flatten (hrows : ∀ row ∈ rows, row.length = width) : rows.flatten.length = rows.length * width := by
  induction rows with
  | nil => exact (Nat.zero_mul _).symm
  | cons row rows ih =>
    rw [List.flatten_cons, List.length_append, hrows row (.head _), ih fun row h => hrows row (.tail _ h),
      List.length_cons, Nat.succ_mul, Nat.add_comm]

theorem stretch_flatten (hrows : ∀ row ∈ rows, row.length = width) (i : Nat) :
    (rows.flatten.drop (i * width)).take width = (rows[i]?).getD [] := by
  induction rows generalizing i with
  | nil => simp
  | cons row rows ih =>
    have hrow : row.length = width := hrows row (.head _)
    cases i with
    | zero => simp [← hrow]
    | succ i =>
      have hdrop : (i + 1) * width = row.length + i * width := by rw [hrow, Nat.succ_mul, Nat.add_comm]
      rw [List.flatten_cons, hdrop, List.drop_length_add_append, ih fun row h => hrows row (.tail _ h),
        List.getElem?_cons_succ]

/-- The stretches of rows of one length, put one after the other, are these rows. -/
theorem stretches_flatten (hwidth : 0 < width) (hrows : ∀ row ∈ rows, row.length = width) :
    stretches width rows.flatten = rows := by
  have hcount : (rows.length * width + width - 1) / width = rows.length := by
    rw [Nat.add_sub_assoc hwidth, Nat.mul_comm, Nat.mul_add_div hwidth, Nat.div_eq_of_lt (by omega), Nat.add_zero]
  rw [stretches, length_flatten hrows, hcount]
  refine List.ext_getElem (by simp) fun i _ hi => ?_
  rw [List.getElem_map, List.getElem_range, stretch_flatten hrows, List.getElem?_eq_getElem hi, Option.getD_some]

end Stretches

/-! ### A keymap that is read -/

/-- The rows that a reader receives. -/
theorem stretches_reply (mapping : KeyboardMapping) (count : Nat) :
    stretches (max 1 (mapping.reply count).1.toNat) (mapping.reply count).2 =
      if mapping.width = 0 then [] else (mapping.rows.take count).map (KeyboardMapping.padRow mapping.width) := by
  have hwidth : (mapping.reply count).1.toNat = mapping.width := mapping.toNat_width
  have hkeysyms : (mapping.reply count).2 = ((mapping.rows.take count).map (KeyboardMapping.padRow mapping.width)).flatten :=
    List.flatMap_def
  have hrows : ∀ row ∈ (mapping.rows.take count).map (KeyboardMapping.padRow mapping.width),
      row.length = mapping.width := by
    intro row h
    obtain ⟨_, -, rfl⟩ := List.mem_map.1 h
    exact KeyboardMapping.length_padRow _ _
  rw [hwidth, hkeysyms]
  split
  next hzero =>
    have hnil := length_flatten hrows
    rw [hzero, Nat.mul_zero, List.length_eq_zero_iff] at hnil
    rw [hzero, hnil]
    rfl
  next hpos =>
    have hpos : 0 < mapping.width := Nat.pos_of_ne_zero hpos
    rw [Nat.max_eq_right hpos]
    exact stretches_flatten hpos hrows

/-- A reader who asks for a number of keycodes finds out about a keycode. -/
structure Lists (mapping : KeyboardMapping) (count : Nat) (keycode : UInt8) : Prop where
  width_pos : 0 < mapping.width
  has : mapping.Has keycode
  within : keycode.toNat - mapping.firstKeycode.toNat < count

/-- What a reader finds out. -/
theorem mem_keys_iff {mapping : KeyboardMapping} {count : Nat} {key : Key} :
    key ∈ keys mapping.firstKeycode (mapping.reply count).1 (mapping.reply count).2 ↔
      Lists mapping count key.keycode ∧
        key.symbols = KeyboardMapping.padRow mapping.width (mapping.symbols key.keycode) := by
  unfold keys
  simp only [stretches_reply, List.mem_mapIdx]
  constructor
  · rintro ⟨i, hi, rfl⟩
    by_cases hzero : mapping.width = 0
    · simp [hzero] at hi
    simp only [if_neg hzero] at hi ⊢
    rw [List.length_take, List.length_map, List.length_take] at hi
    have hkeycode : (UInt8.ofNat (mapping.firstKeycode.toNat + i)).toNat = mapping.firstKeycode.toNat + i :=
      UInt8.toNat_ofNat_of_lt' (by rw [UInt8.size]; omega)
    have hfirst : mapping.firstKeycode ≤ UInt8.ofNat (mapping.firstKeycode.toNat + i) := by
      rw [UInt8.le_iff_toNat_le, hkeycode]
      omega
    refine ⟨⟨Nat.pos_of_ne_zero hzero, ⟨hfirst, by omega⟩, by omega⟩, ?_⟩
    rw [KeyboardMapping.symbols, if_pos hfirst, hkeycode, Nat.add_sub_cancel_left,
      List.getElem?_eq_getElem (by omega), List.getElem_take, List.getElem_map, List.getElem_take, Option.getD_some]
  · rintro ⟨⟨hwidth, ⟨hfirst, hrow⟩, hcount⟩, hsymbols⟩
    have hle : mapping.firstKeycode.toNat ≤ key.keycode.toNat := hfirst
    have hbyte : key.keycode.toNat < 256 := key.keycode.toNat_lt
    refine ⟨key.keycode.toNat - mapping.firstKeycode.toNat, ?_, ?_⟩
    · rw [if_neg (Nat.ne_of_gt hwidth), List.length_take, List.length_map, List.length_take]
      omega
    · have hkeycode : UInt8.ofNat (mapping.firstKeycode.toNat + (key.keycode.toNat - mapping.firstKeycode.toNat)) =
          key.keycode := by rw [Nat.add_sub_cancel' hle, UInt8.ofNat_toNat]
      simp only [if_neg (Nat.ne_of_gt hwidth), List.getElem_take, List.getElem_map, hkeycode]
      rw [KeyboardMapping.symbols, if_pos hfirst, List.getElem?_eq_getElem hrow, Option.getD_some] at hsymbols
      rw [← hsymbols]

/-- What a keymap says that has just been read. -/
structure Reads (m : Keymap) (mapping : KeyboardMapping) : Prop where
  typed (keysym : UInt32) (keycode : UInt8) :
    m.keycodes keysym = some keycode → keysym ≠ 0 ∧ mapping.unshifted keycode = keysym
  spare (keycode : UInt8) : keycode ∈ m.spare → mapping.Has keycode ∧ mapping.unshifted keycode = 0

theorem reads_ofReply (mapping : KeyboardMapping) (count : Nat) :
    (ofReply mapping.firstKeycode (mapping.reply count).1 (mapping.reply count).2).Reads mapping where
  typed keysym keycode h := by
    obtain ⟨key, hkey, rfl⟩ := Option.map_eq_some_iff.1 h
    obtain ⟨⟨hwidth, -, -⟩, hsymbols⟩ := mem_keys_iff.1 (List.mem_of_find?_eq_some hkey)
    have htypes := List.find?_some hkey
    rw [Key.types, hsymbols, KeyboardMapping.head?_padRow hwidth] at htypes
    simpa [KeyboardMapping.unshifted] using htypes
  spare keycode h := by
    obtain ⟨key, hkey, rfl⟩ := List.mem_map.1 h
    obtain ⟨hkey, hspare⟩ := List.mem_filter.1 hkey
    obtain ⟨⟨hwidth, hhas, -⟩, hsymbols⟩ := mem_keys_iff.1 hkey
    refine ⟨hhas, ?_⟩
    have hhead := KeyboardMapping.head?_padRow hwidth (mapping.symbols key.keycode)
    rw [← hsymbols] at hhead
    exact eq_of_beq (List.all_eq_true.1 hspare _ (List.mem_of_head? hhead))

end Keymap

/-- The keys that a typist finds who joins the display. -/
def Display.keys (d : Display) : List Keymap.Key :=
  Keymap.keys d.mapping.firstKeycode (d.mapping.reply d.keycodeCount.toNat).1 (d.mapping.reply d.keycodeCount.toNat).2

namespace Keymap

/-- Reading a keymap leaves the keys of the display as they are, and they are what is read. -/
theorem load_keeps (refuse : Refusals) (d : Display) :
    (load refuse d).2.mapping = d.mapping ∧ (load refuse d).2.lastKeycode = d.lastKeycode ∧
      ∀ m, (load refuse d).1 = .ok m → m = ofKeys d.keys := by
  unfold load Display.ask
  cases refuse .injectionVersion with
  | some failure => exact ⟨rfl, rfl, nofun⟩
  | none =>
    simp only [Display.carryOut]
    split
    next failure _ h =>
      split at h
      · cases h
        exact ⟨rfl, rfl, nofun⟩
      · cases h
    next h =>
      split at h
      · cases h
      · cases h
        refine ⟨rfl, rfl, fun m hm => ?_⟩
        cases hm
        rfl

/-- A keymap that has just been read is right. -/
theorem reads_load (refuse : Refusals) (d : Display) :
    (load refuse d).2.mapping = d.mapping ∧ ∀ m, (load refuse d).1 = .ok m → m.Reads d.mapping := by
  obtain ⟨hmapping, -, hkeys⟩ := load_keeps refuse d
  refine ⟨hmapping, fun m hm => ?_⟩
  rw [hkeys m hm]
  exact reads_ofReply d.mapping _

/-! ### Spare keycodes that are handed out -/

/-- A keymap has a spare keycode for no symbol but the one it was handed out for last. -/
def Coherent (m : Keymap) : Prop :=
  ∀ keysym keycode, m.keycodes keysym = some keycode → keycode ∈ m.spare → m.bound keycode = some keysym

theorem Reads.coherent {m : Keymap} {mapping : KeyboardMapping} (h : m.Reads mapping) : m.Coherent := by
  intro keysym keycode hkeycode hspare
  obtain ⟨hne, htyped⟩ := h.typed keysym keycode hkeycode
  exact absurd (htyped.symm.trans (h.spare keycode hspare).2) hne

theorem assignSpare_eq_some_iff {m after : Keymap} {keysym : UInt32} {keycode : UInt8} :
    m.assignSpare keysym = some (keycode, after) ↔ m.nextSpare? = some keycode ∧ after = m.hand keycode keysym := by
  rw [assignSpare, Option.map_eq_some_iff]
  constructor
  · rintro ⟨_, hnext, ⟨⟩⟩
    exact ⟨hnext, rfl⟩
  · rintro ⟨hnext, rfl⟩
    exact ⟨keycode, hnext, rfl⟩

theorem mem_spare_of_nextSpare? {m : Keymap} {keycode : UInt8} (h : m.nextSpare? = some keycode) :
    keycode ∈ m.spare :=
  List.mem_of_getElem? h

section Hand

variable {m : Keymap} {keysym other : UInt32} {keycode keycode' : UInt8}

/-- A spare keycode that is handed out is that of one symbol, and what the keymap has otherwise, it had before. -/
theorem Coherent.keycodes_hand (h : m.Coherent) (hspare : keycode ∈ m.spare)
    (hother : (m.hand keycode keysym).keycodes other = some keycode') :
    (other = keysym ∧ keycode' = keycode) ∨
      (other ≠ keysym ∧ keycode' ≠ keycode ∧ m.keycodes other = some keycode') := by
  simp only [hand] at hother
  split at hother
  next heq => exact .inl ⟨heq, (Option.some_inj.1 hother).symm⟩
  next hne =>
    split at hother
    · cases hother
    next hbound =>
      refine .inr ⟨hne, ?_, hother⟩
      rintro rfl
      exact hbound (h other keycode' hother hspare)

theorem Coherent.hand (h : m.Coherent) (hspare : keycode ∈ m.spare) : (m.hand keycode keysym).Coherent := by
  intro other keycode' hother hspare'
  obtain ⟨rfl, rfl⟩ | ⟨-, hne, hbefore⟩ := h.keycodes_hand hspare hother
  · exact if_pos rfl
  · exact (if_neg hne).trans (h other keycode' hbefore hspare')

end Hand

end Keymap

end RemoteDesktop
