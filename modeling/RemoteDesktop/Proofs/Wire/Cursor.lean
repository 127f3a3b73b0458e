import RemoteDesktop.Proofs.Bytes
import RemoteDesktop.Wire.Message

/-!
# Readers and what they undo

`Codes read a bytes` says that `bytes` is a self-delimiting form of `a`: the reader takes exactly these
bytes, whatever comes after them, and yields `a`; and it fails if they are cut short. Forms that follow
each other make a form again (`Codes.bind`), so a reader is checked field by field against its writer.
The readers of numbers, truth values, byte strings, texts and lists are checked here.
-/

namespace RemoteDesktop.Wire

/-- A reader takes a value from a cursor, and moves it on. -/
abbrev Reader (α : Type) := Cursor → Except DecodeError (α × Cursor)

variable {α β : Type}

/-- The reader takes exactly these bytes for this value, and fails on them if they are cut short. -/
structure Codes (read : Reader α) (a : α) (bytes : ByteArray) : Prop where
  whole : ∀ c tail, c.rest = bytes.data.toList ++ tail → ∃ after, read c = .ok (a, after) ∧ after.rest = tail
  cut : ∀ c missing, missing ≠ [] → c.rest ++ missing = bytes.data.toList → ∃ e, read c = .error e

/-- The forms of a list, one after the other. -/
def joined (put : α → ByteArray) : List α → ByteArray
  | [] => ByteArray.empty
  | a :: as => put a ++ joined put as

theorem foldl_append_eq (put : α → ByteArray) (as : List α) (start : ByteArray) :
    as.foldl (fun out a => out ++ put a) start = start ++ joined put as := by
  induction as generalizing start with
  | nil => exact ByteArray.append_empty.symm
  | cons a as ih => rw [List.foldl_cons, ih, ByteArray.append_assoc, joined]

theorem joined_append (put : α → ByteArray) (as bs : List α) : joined put (as ++ bs) = joined put as ++ joined put bs := by
  induction as with
  | nil => exact ByteArray.empty_append.symm
  | cons a as ih => rw [List.cons_append, joined, ih, joined, ByteArray.append_assoc]

theorem joined_map (put : β → ByteArray) (f : α → β) (as : List α) :
    joined put (as.map f) = joined (fun a => put (f a)) as := by
  induction as with
  | nil => rfl
  | cons a as ih => rw [List.map_cons, joined, ih, joined]

theorem size_le_joined (put : α → ByteArray) {a : α} {as : List α} (h : a ∈ as) :
    (put a).size ≤ (joined put as).size := by
  induction as with
  | nil => cases h
  | cons b as ih =>
    rw [joined, ByteArray.size_append]
    rcases List.mem_cons.1 h with rfl | h
    · exact Nat.le_add_right _ _
    · exact Nat.le_trans (ih h) (Nat.le_add_left _ _)

theorem length_le_joined {put : α → ByteArray} (hput : ∀ a, 0 < (put a).size) (as : List α) :
    as.length ≤ (joined put as).size := by
  induction as with
  | nil => exact Nat.zero_le _
  | cons a as ih =>
    have := hput a
    rw [joined, ByteArray.size_append, List.length_cons]
    omega

namespace Codes

/-- A reader that takes nothing. -/
protected theorem pure (a : α) : Codes (fun c => .ok (a, c)) a ByteArray.empty := by
  refine ⟨fun c tail h => ⟨c, rfl, h⟩, fun c missing hm h => ?_⟩
  exact absurd (List.append_eq_nil_iff.1 h).2 hm

/-- What follows a form is read by what follows its reader. -/
protected theorem bind {read : Reader α} {next : α × Cursor → Except DecodeError (β × Cursor)} {a : α} {b : β}
    {bytes more : ByteArray} (h : Codes read a bytes) (hnext : Codes (fun c => next (a, c)) b more) :
    Codes (fun c => read c >>= next) b (bytes ++ more) := by
  refine ⟨fun c tail hc => ?_, fun c missing hm hc => ?_⟩
  · rw [ByteArray.toList_data_append, List.append_assoc] at hc
    obtain ⟨between, hread, hrest⟩ := h.whole c _ hc
    obtain ⟨after, hread', hrest'⟩ := hnext.whole between tail hrest
    exact ⟨after, by rw [hread]; exact hread', hrest'⟩
  · rw [ByteArray.toList_data_append] at hc
    -- the cut lies in the second form, or before its first byte
    rcases List.append_eq_append_iff.1 hc with ⟨front, hfront, htail⟩ | ⟨rest, hrest, htail⟩
    · by_cases hnil : front = []
      · subst hnil
        rw [List.append_nil] at hfront
        obtain ⟨between, hread, hbetween⟩ := h.whole c [] (by rw [hfront, List.append_nil])
        obtain ⟨e, he⟩ := hnext.cut between missing hm (by rw [hbetween, List.nil_append]; exact htail)
        exact ⟨e, by rw [hread]; exact he⟩
      · obtain ⟨e, he⟩ := h.cut c front hnil hfront.symm
        exact ⟨e, by rw [he]; rfl⟩
    · obtain ⟨between, hread, hbetween⟩ := h.whole c rest hrest
      obtain ⟨e, he⟩ := hnext.cut between missing hm (by rw [hbetween]; exact htail.symm)
      exact ⟨e, by rw [hread]; exact he⟩

/-- The last form of a row is followed by nothing. -/
theorem last {read : Reader α} {next : α × Cursor → Except DecodeError (β × Cursor)} {a : α} {b : β}
    {bytes : ByteArray} (h : Codes read a bytes) (hnext : ∀ c, next (a, c) = .ok (b, c)) :
    Codes (fun c => read c >>= next) b bytes := by
  have hpure : Codes (fun c => next (a, c)) b ByteArray.empty := (funext hnext : (fun c => next (a, c)) = _) ▸ .pure b
  rw [← @ByteArray.append_empty bytes]
  exact h.bind hpure

/-- Reading a list reads its items. -/
theorem items {item : Reader α} {put : α → ByteArray} {as : List α} (h : ∀ a ∈ as, Codes item a (put a)) :
    Codes (Cursor.items item as.length) as (joined put as) := by
  induction as with
  | nil => exact .pure []
  | cons a as ih =>
    refine .bind (h a List.mem_cons_self) ?_
    exact .last (ih fun b hb => h b (List.mem_cons_of_mem a hb)) fun _ => rfl

/-! ### Bytes -/

theorem byte (b : UInt8) : Codes Cursor.byte b (Bytes.ofList [b]) := by
  refine ⟨fun c tail h => ?_, fun c missing hm h => ?_⟩
  · rw [Bytes.toList_ofList, List.singleton_append] at h
    have hpos : c.position < c.payload.size := by
      have hlen := c.length_rest
      rw [h, List.length_cons, Cursor.remaining] at hlen
      omega
    have hrest := h
    rw [Cursor.rest, List.drop_eq_getElem_cons (by rw [Bytes.length_toList]; exact hpos)] at hrest
    obtain ⟨hb, htail⟩ := List.cons.inj hrest
    exact ⟨⟨c.payload, c.position + 1⟩, by rw [Cursor.byte, dif_pos hpos, ← hb]; rfl, htail⟩
  · have hnil : c.rest = [] := by
      have hlen := congrArg List.length h
      have hmissing := List.length_pos_iff.2 hm
      rw [List.length_append, Bytes.toList_ofList, List.length_singleton] at hlen
      exact List.length_eq_zero_iff.1 (by omega)
    have hpos : ¬ c.position < c.payload.size := by
      have hlen := c.length_rest
      rw [hnil, List.length_nil, Cursor.remaining] at hlen
      omega
    exact ⟨.endOfInput, by rw [Cursor.byte, dif_neg hpos]⟩

theorem take (why : DecodeError) (bytes : ByteArray) : Codes (Cursor.take why bytes.size) bytes bytes := by
  refine ⟨fun c tail h => ?_, fun c missing hm h => ?_⟩
  · have hlen := c.length_rest
    rw [h, List.length_append, Bytes.length_toList] at hlen
    have hfront : c.payload.extract c.position (c.position + bytes.size) = bytes := by
      apply Bytes.ext_toList
      rw [Bytes.toList_extract, Nat.add_sub_cancel_left, ← Cursor.rest, h, ← Bytes.length_toList, List.take_left]
    refine ⟨⟨c.payload, c.position + bytes.size⟩, ?_, ?_⟩
    · rw [Cursor.take, if_pos (by omega), hfront]
    · rw [Cursor.rest, ← List.drop_drop, ← Cursor.rest, h, ← Bytes.length_toList, List.drop_left]
  · have hlen := congrArg List.length h
    have hmissing := List.length_pos_iff.2 hm
    rw [List.length_append, Cursor.length_rest, Bytes.length_toList] at hlen
    exact ⟨why, by rw [Cursor.take, if_neg (by omega)]⟩

/-! ### Numbers -/

/-- An integer that takes more than one byte. -/
theorem wide {n width : Nat} {first : UInt8} (hfirst : Integer.announced first = .wide width)
    (hn : n < 256 ^ width) : Codes Cursor.integer n (Bytes.ofList (first :: Bytes.leBytes width n)) := by
  have hsize : (Bytes.ofList (Bytes.leBytes width n)).size = width := by
    rw [Bytes.size_ofList, Bytes.length_leBytes]
  have hsplit : Bytes.ofList (first :: Bytes.leBytes width n) =
      Bytes.ofList [first] ++ Bytes.ofList (Bytes.leBytes width n) :=
    Bytes.ext_toList (by simp only [ByteArray.toList_data_append, Bytes.toList_ofList, List.singleton_append])
  rw [hsplit]
  refine .bind (byte first) ?_
  simp only [hfirst]
  refine .last (hsize ▸ take .endOfInput _) fun c => ?_
  rw [Bytes.toList_eq, Bytes.toList_ofList, Bytes.leNat_leBytes hn]
  rfl

/-- The shortest form of an integer is read. -/
theorem integer {n : Nat} (h : n < 2 ^ 64) : Codes Cursor.integer n (putNat n) := by
  unfold putNat Integer.encode
  split
  next hn =>
    have hfirst : Integer.announced (UInt8.ofNat n) = .value n := by
      have hvalue : (UInt8.ofNat n).toNat = n := UInt8.toNat_ofNat_of_lt' (by simp [UInt8.size]; omega)
      rw [Integer.announced, if_pos (by rw [UInt8.lt_iff_toNat_lt, hvalue]; exact hn), hvalue]
    exact .last (byte _) fun c => by simp only [hfirst]; rfl
  next =>
    split
    next hn => exact wide rfl hn
    next =>
      split
      next hn => exact wide rfl hn
      next => exact wide rfl h

theorem bounded {bits n : Nat} (hbits : bits ≤ 64) (h : n < 2 ^ bits) : Codes (Cursor.bounded bits) n (putNat n) :=
  .last (integer (Nat.lt_of_lt_of_le h (Nat.pow_le_pow_right (by omega) hbits))) fun _ => if_pos h

theorem u16 (n : UInt16) : Codes Cursor.u16 n (putNat n.toNat) :=
  .last (bounded (by omega) n.toNat_lt) fun _ => by simp only [UInt16.ofNat_toNat]; rfl

theorem u32 (n : UInt32) : Codes Cursor.u32 n (putNat n.toNat) :=
  .last (bounded (by omega) n.toNat_lt) fun _ => by simp only [UInt32.ofNat_toNat]; rfl

theorem u64 (n : UInt64) : Codes Cursor.u64 n (putNat n.toNat) :=
  .last (bounded (by omega) n.toNat_lt) fun _ => by simp only [UInt64.ofNat_toNat]; rfl

theorem caseOf {cases n : Nat} (hcases : cases < 2 ^ 32) (h : n < cases) : Codes (Cursor.caseOf cases) n (putNat n) :=
  .last (bounded (by omega) (Nat.lt_trans h hcases)) fun _ => if_pos h

theorem bool (b : Bool) : Codes Cursor.bool b (putBool b) := by
  cases b with
  | false => exact .last (byte 0) fun _ => rfl
  | true => exact .last (byte 1) fun _ => rfl

/-! ### Strings -/

theorem bytes {b : ByteArray} (h : b.size < 2 ^ 64) : Codes Cursor.bytes b (putBytes b) :=
  .bind (integer h) (take .endOfInput b)

theorem text {s : String} (h : s.toUTF8.size < 2 ^ 64) : Codes Cursor.text s (putText s) := by
  refine .bind (integer h) (.last (take .cutText s.toUTF8) fun c => ?_)
  simp only [Bytes.fromUTF8?_toUTF8]
  rfl

/-! ### Payloads -/

/-- A form of a whole payload is read as such; the payload is refused if it is cut short, and if it goes
on. -/
theorem of_whole {read : Reader α} {a : α} {payload : ByteArray} (h : Codes read a payload) :
    Cursor.whole read payload = .ok a ∧
      (∀ n < payload.size, ∃ e, Cursor.whole read (payload.extract 0 n) = .error e) ∧
      ∀ extra : ByteArray, extra.size ≠ 0 → ∃ e, Cursor.whole read (payload ++ extra) = .error e := by
  refine ⟨?_, fun n hn => ?_, fun extra hextra => ?_⟩
  · obtain ⟨after, hread, hrest⟩ := h.whole ⟨payload, 0⟩ [] (List.append_nil _).symm
    have hdone : after.remaining = 0 := by rw [← Cursor.length_rest, hrest, List.length_nil]
    rw [Cursor.whole, hread]
    exact if_pos hdone
  · have hrest : (⟨payload.extract 0 n, 0⟩ : Cursor).rest = payload.data.toList.take n := by
      rw [Cursor.rest, Bytes.toList_extract, List.drop_zero, List.drop_zero, Nat.sub_zero]
    obtain ⟨e, he⟩ := h.cut ⟨payload.extract 0 n, 0⟩ (payload.data.toList.drop n)
      (by rw [Ne, List.drop_eq_nil_iff, Bytes.length_toList]; omega) (by rw [hrest, List.take_append_drop])
    exact ⟨e, by rw [Cursor.whole, he]; rfl⟩
  · obtain ⟨after, hread, hrest⟩ := h.whole ⟨payload ++ extra, 0⟩ extra.data.toList
      (ByteArray.toList_data_append ..)
    have hmore : after.remaining ≠ 0 := by rwa [← Cursor.length_rest, hrest, Bytes.length_toList]
    exact ⟨.trailingBytes, by rw [Cursor.whole, hread]; exact if_neg hmore⟩

end Codes

end RemoteDesktop.Wire
