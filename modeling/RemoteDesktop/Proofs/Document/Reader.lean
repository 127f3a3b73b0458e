import RemoteDesktop.Document.Reader
import Mathlib.Data.List.Nodup

/-!
# Records are read back

A table whose entries are the fields of a record, in the order of the record, holds one record
(`RecordReader.Holds`). The readers of records are put together with `<$>` and `<*>`, and so are the tables that
they read: one lemma for each way to build a reader.

Main statement: `RecordReader.Holds.read`.
-/

namespace RemoteDesktop.Document

variable {α β : Type}

/-! ### Single values -/

namespace Value

theorem readNatural_ofNat {n limit : Nat} (h : n < limit) : (ofNat n).readNatural limit = .ok n :=
  if_pos ⟨Int.natCast_nonneg n, Int.ofNat_lt.2 h⟩

theorem readByte_ofNat (b : UInt8) : (ofNat b.toNat).readByte = .ok b := by
  rw [readByte, readNatural_ofNat (UInt8.toNat_lt b)]
  exact congrArg Except.ok UInt8.ofNat_toNat

theorem readWord16_ofNat (n : UInt16) : (ofNat n.toNat).readWord16 = .ok n := by
  rw [readWord16, readNatural_ofNat (UInt16.toNat_lt n)]
  exact congrArg Except.ok UInt16.ofNat_toNat

theorem readWord32_ofNat (n : UInt32) : (ofNat n.toNat).readWord32 = .ok n := by
  rw [readWord32, readNatural_ofNat (UInt32.toNat_lt n)]
  exact congrArg Except.ok UInt32.ofNat_toNat

theorem readWord64_ofNat (n : UInt64) : (ofNat n.toNat).readWord64 = .ok n := by
  rw [readWord64, readNatural_ofNat (UInt64.toNat_lt n)]
  exact congrArg Except.ok UInt64.ofNat_toNat

/-- A list is read back if its items are. -/
theorem readList_map {read : Reader α} {write : α → Value} (h : ∀ a, read (write a) = .ok a) (items : List α) :
    (list (items.map write) none).readList read = .ok items := by
  have hitems : (items.map write).mapM read = .ok items := by
    induction items with
    | nil => rfl
    | cons a items ih =>
      rw [List.map_cons, List.mapM_cons, h, ih]
      rfl
  rw [readList, hitems]
  rfl

theorem readPair_list {read : Reader α} {first second : Value} {a b : α} (ha : read first = .ok a)
    (hb : read second = .ok b) : (list [first, second] none).readPair read = .ok (a, b) := by
  simp only [readPair, ha, hb]
  rfl

/-- A choice is read by its name. -/
theorem readChoice_ofString {dialect : Dialect} {choice? : String → Option α} {name : String} {a : α}
    (h : choice? name = some a) : (ofString name).readChoice dialect choice? = .ok a := by
  simp only [ofString, readChoice, readName, bind, Except.bind, h]

/-- A value that may be null is read back if no value that is there is written as null. -/
theorem readOptional_ofOption {read : Reader α} {write : α → Value} (hread : ∀ a, read (write a) = .ok a)
    (hwrite : ∀ a, write a ≠ null) (a : Option α) : (ofOption write a).readOptional read = .ok a := by
  cases a with
  | none => rfl
  | some a =>
    rw [ofOption, readOptional]
    · rw [hread]
      rfl
    · exact hwrite a

end Value

/-! ### Records -/

namespace RecordReader

/-- The entries are the fields of the record, in its order, and hold the record `a`. -/
structure Holds (reader : RecordReader α) (entries : List (String × Value)) (a : α) : Prop where
  names : reader.fields.map Prod.fst = entries.map Prod.fst
  /-- Every entry passes the check of its field. -/
  checks : ∀ entry ∈ entries, ∃ field ∈ reader.fields, field.1 = entry.1 ∧ field.2 entry.2 = .ok ()
  /-- Whoever finds these entries makes `a` of them. -/
  build : ∀ find : String → Option Value, (∀ entry ∈ entries, find entry.1 = some entry.2) →
    reader.build false find = .ok a

namespace Holds

variable {value : Value} {read : Reader α} {a : α}

theorem pure (a : α) : (Pure.pure a : RecordReader α).Holds [] a :=
  ⟨rfl, fun _ h => absurd h List.not_mem_nil, fun _ _ => rfl⟩

theorem seq {f : RecordReader (α → β)} {reader : RecordReader α} {before after : List (String × Value)} {g : α → β}
    {a : α} (hf : f.Holds before g) (ha : reader.Holds after a) : (f <*> reader).Holds (before ++ after) (g a) where
  names := by
    rw [List.map_append, ← hf.names, ← ha.names, ← List.map_append]
    rfl
  checks entry hentry := by
    rcases List.mem_append.1 hentry with h | h
    · obtain ⟨field, hfield, hcheck⟩ := hf.checks entry h
      exact ⟨field, List.mem_append_left _ hfield, hcheck⟩
    · obtain ⟨field, hfield, hcheck⟩ := ha.checks entry h
      exact ⟨field, List.mem_append_right _ hfield, hcheck⟩
  build find hfind := by
    have hbuild : (f <*> reader).build false find =
        (do
          let f ← f.build false find
          let a ← reader.build false find
          Except.ok (f a)) := rfl
    rw [hbuild, hf.build find fun entry h => hfind entry (List.mem_append_left _ h),
      ha.build find fun entry h => hfind entry (List.mem_append_right _ h)]
    rfl

theorem map {reader : RecordReader α} {entries : List (String × Value)} {a : α} (f : α → β)
    (ha : reader.Holds entries a) : (f <$> reader).Holds entries (f a) :=
  (pure f).seq ha

/-- An entry holds the value that the reader of its field makes of it. -/
theorem ofField {field : Field α} (h : field.read value = .ok a) :
    (RecordReader.ofField field).Holds [(field.name, value)] a where
  names := rfl
  checks entry hentry := by
    have hcheck : discard (field.read value) = .ok () := by
      rw [h]
      rfl
    rw [List.mem_singleton.1 hentry]
    exact ⟨_, List.mem_cons_self, rfl, hcheck⟩
  build find hfind := by
    simp only [RecordReader.ofField, hfind _ List.mem_cons_self, h]

theorem required (name : String) (h : read value = .ok a) : (RecordReader.required name read).Holds [(name, value)] a :=
  ofField h

theorem nullable (name : String) {a : Option α} (h : Value.readOptional read value = .ok a) :
    (RecordReader.nullable name read).Holds [(name, value)] a :=
  ofField h

end Holds

/-! ### Tables -/

/-- The entry of a name is found if no other has the name. -/
theorem lookup_of_mem {entries : List (String × β)} (hnames : (entries.map Prod.fst).Nodup) {entry : String × β}
    (h : entry ∈ entries) : entries.lookup entry.1 = some entry.2 := by
  obtain ⟨before, after, rfl⟩ := List.mem_iff_append.1 h
  refine List.lookup_eq_some_iff.2 ⟨before, after, rfl, fun other hother => bne_iff_ne.2 fun hsame => ?_⟩
  rw [List.map_append, List.map_cons] at hnames
  exact List.disjoint_of_nodup_append hnames (List.mem_map_of_mem hother) (hsame ▸ List.mem_cons_self)

/-- Entries that pass their checks are collected. -/
theorem collect_entries {reader : RecordReader α} {entries : List (String × Value)}
    (hchecks : ∀ entry ∈ entries, ∃ check, reader.fields.lookup entry.1 = some check ∧ check entry.2 = .ok ())
    (hnames : (entries.map Prod.fst).Nodup) {found : List (String × Value)}
    (hnew : ∀ entry ∈ entries, found.lookup entry.1 = none) :
    reader.collect found (entries.map fun (key, value) => (.ofString key, value)) = .ok (entries.reverse ++ found) := by
  induction entries generalizing found with
  | nil => rfl
  | cons entry entries ih =>
    obtain ⟨check, hcheck, hok⟩ := hchecks entry List.mem_cons_self
    rw [List.map_cons, List.nodup_cons] at hnames
    have hnext : ∀ e ∈ entries, (entry :: found).lookup e.1 = none := by
      intro e he
      have hother : (e.1 == entry.1) = false :=
        beq_eq_false_iff_ne.2 fun hsame => hnames.1 (hsame ▸ List.mem_map_of_mem he)
      rw [List.lookup_cons, hother]
      exact hnew e (List.mem_cons_of_mem _ he)
    have hrest := ih (fun e he => hchecks e (List.mem_cons_of_mem _ he)) hnames.2 hnext
    have hkey : (Value.ofString entry.1).readText = .ok entry.1 := rfl
    rw [List.map_cons, collect, hkey]
    simp only [bind, Except.bind, hcheck, hnew entry List.mem_cons_self, Option.isSome_none, Bool.false_eq_true,
      if_false, hok, hrest, List.reverse_cons, List.append_assoc, List.singleton_append]

/-- **A table is read as the record that its entries hold**, if no field has the name of another. -/
theorem Holds.read {reader : RecordReader α} {entries : List (String × Value)} {a : α}
    (h : reader.Holds entries a) (hnames : (entries.map Prod.fst).Nodup) (dialect : Dialect) :
    reader.read dialect (.ofEntries entries) = .ok a := by
  have hchecks : ∀ entry ∈ entries,
      ∃ check, reader.fields.lookup entry.1 = some check ∧ check entry.2 = .ok () := by
    intro entry hentry
    obtain ⟨field, hfield, hname, hcheck⟩ := h.checks entry hentry
    exact ⟨field.2, hname ▸ lookup_of_mem (h.names ▸ hnames) hfield, hcheck⟩
  rw [Value.ofEntries, RecordReader.read, collect_entries hchecks hnames (fun _ _ => rfl)]
  simp only [bind, Except.bind, Value.endOf, List.append_nil]
  refine h.build _ fun entry hentry => lookup_of_mem ?_ (List.mem_reverse.2 hentry)
  rwa [List.map_reverse, List.nodup_reverse]

end RecordReader

end RemoteDesktop.Document
