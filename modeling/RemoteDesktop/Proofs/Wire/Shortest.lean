import Mathlib.Tactic.IntervalCases
import Mathlib.Tactic.SplitIfs
import RemoteDesktop.Proofs.Wire.Message

/-!
# The shortest form of a message

A reader also takes integers that are longer than they need be, wherever an integer stands: in the number of a
case, a length, a coordinate. What it takes for a value is never shorter than what is written for it, and if it is
as long, it is the same (`Spends`). This holds of an integer, byte string or text, and if it holds of two readers, then
of one after the other (`Spends.append`); so each reader is followed through its steps. Main statement:
`written_shortest`.
-/

namespace RemoteDesktop.Wire

/-! ### Forms of an integer -/

namespace Integer

theorem announced_eq_value {first : UInt8} {n : Nat} (h : announced first = .value n) : first.toNat = n ∧ n < 251 := by
  unfold announced at h
  split_ifs at h with hlt
  cases h
  exact ⟨rfl, UInt8.lt_iff_toNat_lt.1 hlt⟩

theorem announced_eq_wide {first : UInt8} {width : Nat} (h : announced first = .wide width) :
    first = 251 ∧ width = 2 ∨ first = 252 ∧ width = 4 ∨ first = 253 ∧ width = 8 := by
  unfold announced at h
  split_ifs at h with hlt h2 h4 h8 <;> cases h
  · exact .inl ⟨h2, rfl⟩
  · exact .inr (.inl ⟨h4, rfl⟩)
  · exact .inr (.inr ⟨h8, rfl⟩)

/-- A form of several bytes is at least as long as the shortest form, and is the shortest form if it is as long. -/
theorem length_encode_wide {first : UInt8} {width n : Nat} (h : announced first = .wide width) (hn : n < 256 ^ width) :
    (encode n).length ≤ width + 1 ∧ ((encode n).length = width + 1 → encode n = first :: Bytes.leBytes width n) := by
  unfold encode
  rcases announced_eq_wide h with ⟨rfl, rfl⟩ | ⟨rfl, rfl⟩ | ⟨rfl, rfl⟩ <;> split_ifs <;> simp_all

end Integer

/-! ### What is spent on a value -/

/-- What is read between two places is at least as long as `shortest`, and is `shortest` if it is as long. -/
def Spends (c after : Cursor) (shortest : ByteArray) : Prop :=
  ∃ taken, c.rest = taken ++ after.rest ∧ shortest.size ≤ taken.length ∧
    (shortest.size = taken.length → shortest.data.toList = taken)

namespace Spends

variable {c d after : Cursor}

theorem refl (c : Cursor) : Spends c c ByteArray.empty := ⟨[], rfl, Nat.le_refl _, fun _ => rfl⟩

/-- What is read one after the other. -/
theorem append {a b : ByteArray} (ha : Spends c d a) (hb : Spends d after b) : Spends c after (a ++ b) := by
  obtain ⟨front, hfront, hale, haeq⟩ := ha
  obtain ⟨back, hback, hble, hbeq⟩ := hb
  refine ⟨front ++ back, by rw [hfront, hback, List.append_assoc], ?_, fun h => ?_⟩
  · rw [ByteArray.size_append, List.length_append]
    exact Nat.add_le_add hale hble
  · -- neither half can be longer than its shortest form, so both are these
    rw [ByteArray.size_append, List.length_append] at h
    rw [ByteArray.toList_data_append, haeq (by omega), hbeq (by omega)]

/-- What is read is nothing but `bytes`. -/
theorem of_rest {bytes : ByteArray} (h : c.rest = bytes.data.toList ++ after.rest) : Spends c after bytes :=
  ⟨_, h, Nat.le_of_eq (Bytes.length_toList bytes).symm, fun _ => rfl⟩

/-! ### Bytes -/

theorem rest_of_byte {b : UInt8} (h : c.byte = .ok (b, after)) : c.rest = b :: after.rest := by
  unfold Cursor.byte at h
  split at h
  next hlt =>
    cases h
    rw [Cursor.rest, List.drop_eq_getElem_cons (by rw [Bytes.length_toList]; exact hlt)]
    rfl
  next => cases h

theorem rest_of_take {why : DecodeError} {n : Nat} {bytes : ByteArray} (h : c.take why n = .ok (bytes, after)) :
    bytes.size = n ∧ c.rest = bytes.data.toList ++ after.rest := by
  unfold Cursor.take at h
  split at h
  next hle =>
    cases h
    rw [Cursor.remaining] at hle
    constructor
    · rw [ByteArray.size_extract]
      omega
    · rw [Bytes.toList_extract, Nat.add_sub_cancel_left, Cursor.rest, Cursor.rest, ← List.drop_drop,
        List.take_append_drop]
  next => cases h

/-! ### Numbers -/

theorem integer {n : Nat} (h : c.integer = .ok (n, after)) : Spends c after (putNat n) := by
  obtain ⟨⟨first, d⟩, hfirst, h⟩ := bind_eq_ok_iff.1 h
  have hrest := rest_of_byte hfirst
  dsimp only at h
  split at h
  next value hvalue =>
    cases h
    obtain ⟨rfl, hlt⟩ := Integer.announced_eq_value hvalue
    refine of_rest ?_
    rw [putNat, Bytes.toList_ofList, Integer.encode, if_pos hlt, UInt8.ofNat_toNat, hrest]
    rfl
  next width hwide =>
    obtain ⟨⟨bytes, e⟩, hbytes, h⟩ := bind_eq_ok_iff.1 h
    cases h
    obtain ⟨hsize, hmore⟩ := rest_of_take hbytes
    have hlen : bytes.data.toList.length = width := (Bytes.length_toList bytes).trans hsize
    have hback : Bytes.leBytes width (Bytes.leNat bytes.data.toList) = bytes.data.toList :=
      hlen ▸ Bytes.leBytes_leNat _
    obtain ⟨hle, heq⟩ := Integer.length_encode_wide hwide (hlen ▸ Bytes.leNat_lt bytes.data.toList)
    rw [Bytes.toList_eq, putNat]
    refine ⟨first :: bytes.data.toList, by rw [hrest, hmore]; rfl, ?_, fun h => ?_⟩
    · rw [Bytes.size_ofList, List.length_cons, hlen]
      exact hle
    · rw [Bytes.size_ofList, List.length_cons, hlen] at h
      rw [Bytes.toList_ofList, heq h, hback]
  next => cases h
  next => cases h

theorem bounded {bits n : Nat} (h : c.bounded bits = .ok (n, after)) : Spends c after (putNat n) ∧ n < 2 ^ bits := by
  obtain ⟨⟨m, d⟩, hm, h⟩ := bind_eq_ok_iff.1 h
  dsimp only at h
  split at h
  next hlt =>
    cases h
    exact ⟨integer hm, hlt⟩
  next => cases h

theorem u16 {n : UInt16} (h : c.u16 = .ok (n, after)) : Spends c after (putNat n.toNat) := by
  obtain ⟨⟨m, d⟩, hm, h⟩ := bind_eq_ok_iff.1 h
  cases h
  obtain ⟨hspends, hlt⟩ := bounded hm
  rwa [UInt16.toNat_ofNat_of_lt' hlt]

theorem u32 {n : UInt32} (h : c.u32 = .ok (n, after)) : Spends c after (putNat n.toNat) := by
  obtain ⟨⟨m, d⟩, hm, h⟩ := bind_eq_ok_iff.1 h
  cases h
  obtain ⟨hspends, hlt⟩ := bounded hm
  rwa [UInt32.toNat_ofNat_of_lt' hlt]

theorem u64 {n : UInt64} (h : c.u64 = .ok (n, after)) : Spends c after (putNat n.toNat) := by
  obtain ⟨⟨m, d⟩, hm, h⟩ := bind_eq_ok_iff.1 h
  cases h
  obtain ⟨hspends, hlt⟩ := bounded hm
  rwa [UInt64.toNat_ofNat_of_lt' hlt]

theorem caseOf {cases n : Nat} (h : c.caseOf cases = .ok (n, after)) : Spends c after (putNat n) ∧ n < cases := by
  obtain ⟨⟨m, d⟩, hm, h⟩ := bind_eq_ok_iff.1 h
  dsimp only at h
  split at h
  next hlt =>
    cases h
    exact ⟨(bounded hm).1, hlt⟩
  next => cases h

theorem bool {b : Bool} (h : c.bool = .ok (b, after)) : Spends c after (putBool b) := by
  obtain ⟨⟨first, d⟩, hfirst, h⟩ := bind_eq_ok_iff.1 h
  have hrest := rest_of_byte hfirst
  dsimp only at h
  split_ifs at h with h0 h1 <;> cases h
  · exact of_rest (by rw [hrest, h0]; rfl)
  · exact of_rest (by rw [hrest, h1]; rfl)

/-! ### Strings and lists -/

/-- A byte string after its length. -/
theorem measured {why : DecodeError} {n : Nat} {bytes : ByteArray} (hlength : c.integer = .ok (n, d))
    (hbytes : d.take why n = .ok (bytes, after)) : Spends c after (putBytes bytes) := by
  obtain ⟨rfl, hrest⟩ := rest_of_take hbytes
  exact (integer hlength).append (of_rest hrest)

theorem bytes {b : ByteArray} (h : c.bytes = .ok (b, after)) : Spends c after (putBytes b) := by
  obtain ⟨⟨n, d⟩, hlength, h⟩ := bind_eq_ok_iff.1 h
  exact measured hlength h

theorem text {s : String} (h : c.text = .ok (s, after)) : Spends c after (putText s) := by
  obtain ⟨⟨n, d⟩, hlength, h⟩ := bind_eq_ok_iff.1 h
  obtain ⟨⟨bytes, e⟩, hbytes, h⟩ := bind_eq_ok_iff.1 h
  dsimp only at h
  split at h
  next text htext =>
    cases h
    rw [putText, Bytes.toUTF8_of_fromUTF8? htext]
    exact measured hlength hbytes
  next => cases h

theorem items {α : Type} {item : Reader α} {put : α → ByteArray}
    (hitem : ∀ {c after : Cursor} {a : α}, item c = .ok (a, after) → Spends c after (put a)) {n : Nat} {as : List α}
    (h : c.items item n = .ok (as, after)) : Spends c after (joined put as) ∧ as.length = n := by
  induction n generalizing c as with
  | zero =>
    cases h
    exact ⟨refl _, rfl⟩
  | succ n ih =>
    obtain ⟨⟨a, d⟩, ha, h⟩ := bind_eq_ok_iff.1 h
    obtain ⟨⟨rest, e⟩, hrest, h⟩ := bind_eq_ok_iff.1 h
    cases h
    obtain ⟨hspends, hlen⟩ := ih hrest
    exact ⟨(hitem ha).append hspends, congrArg (· + 1) hlen⟩

/-! ### The parts of messages -/

theorem size {s : Size} (h : c.size = .ok (s, after)) : Spends c after (putSize s) := by
  obtain ⟨⟨width, d⟩, hwidth, h⟩ := bind_eq_ok_iff.1 h
  obtain ⟨⟨height, e⟩, hheight, h⟩ := bind_eq_ok_iff.1 h
  cases h
  exact (u32 hwidth).append (u32 hheight)

theorem mode {m : Mode} (h : c.mode = .ok (m, after)) : Spends c after (putMode m) := by
  obtain ⟨⟨index, d⟩, hindex, h⟩ := bind_eq_ok_iff.1 h
  cases h
  obtain ⟨hspends, hlt⟩ := caseOf hindex
  obtain rfl | rfl : index = 0 ∨ index = 1 := by omega
  · exact hspends
  · exact hspends

theorem kind {k : UpdateKind} (h : c.kind = .ok (k, after)) : Spends c after (putKind k) := by
  obtain ⟨⟨index, d⟩, hindex, h⟩ := bind_eq_ok_iff.1 h
  cases h
  obtain ⟨hspends, hlt⟩ := caseOf hindex
  obtain rfl | rfl : index = 0 ∨ index = 1 := by omega
  · exact hspends
  · exact hspends

theorem event {e : InputEvent} (h : c.event = .ok (e, after)) : Spends c after (putEvent e) := by
  obtain ⟨⟨index, c1⟩, hindex, h⟩ := bind_eq_ok_iff.1 h
  obtain ⟨⟨flags, c2⟩, hflags, h⟩ := bind_eq_ok_iff.1 h
  obtain ⟨⟨first, c3⟩, hfirst, h⟩ := bind_eq_ok_iff.1 h
  obtain ⟨hcase, hlt⟩ := caseOf hindex
  have hshort := (hcase.append (u16 hflags)).append (u16 hfirst)
  interval_cases index
  case «0» | «1» =>
    cases h
    exact hshort
  case «2» | «3» =>
    obtain ⟨⟨second, c4⟩, hsecond, h⟩ := bind_eq_ok_iff.1 h
    cases h
    exact hshort.append (u16 hsecond)

theorem rect {r : Rect} (h : c.rect = .ok (r, after)) : Spends c after (putRect r) := by
  obtain ⟨⟨x, c1⟩, hx, h⟩ := bind_eq_ok_iff.1 h
  obtain ⟨⟨y, c2⟩, hy, h⟩ := bind_eq_ok_iff.1 h
  obtain ⟨⟨width, c3⟩, hwidth, h⟩ := bind_eq_ok_iff.1 h
  obtain ⟨⟨height, c4⟩, hheight, h⟩ := bind_eq_ok_iff.1 h
  obtain ⟨⟨data, c5⟩, hdata, h⟩ := bind_eq_ok_iff.1 h
  cases h
  exact ((((u32 hx).append (u32 hy)).append (u32 hwidth)).append (u32 hheight)).append (bytes hdata)

theorem update {u : Update} (h : c.update = .ok (u, after)) : Spends c after (putUpdate u) := by
  obtain ⟨⟨sequence, c1⟩, hsequence, h⟩ := bind_eq_ok_iff.1 h
  obtain ⟨⟨size, c2⟩, hsize, h⟩ := bind_eq_ok_iff.1 h
  obtain ⟨⟨mode, c3⟩, hmode, h⟩ := bind_eq_ok_iff.1 h
  obtain ⟨⟨kind, c4⟩, hkind, h⟩ := bind_eq_ok_iff.1 h
  obtain ⟨⟨count, c5⟩, hcount, h⟩ := bind_eq_ok_iff.1 h
  obtain ⟨⟨rects, c6⟩, hrects, h⟩ := bind_eq_ok_iff.1 h
  cases h
  obtain ⟨hitems, rfl⟩ := items rect hrects
  rw [putUpdate_eq]
  exact (u64 hsequence).append ((Spends.size hsize).append ((Spends.mode hmode).append ((Spends.kind hkind).append
    ((integer hcount).append hitems))))

/-! ### Messages -/

theorem client {m : ClientMessage} (h : c.client = .ok (m, after)) : Spends c after (putClient m) := by
  obtain ⟨⟨index, d⟩, hindex, h⟩ := bind_eq_ok_iff.1 h
  obtain ⟨hcase, hlt⟩ := caseOf hindex
  interval_cases index
  case «0» =>
    obtain ⟨⟨version, c1⟩, hversion, h⟩ := bind_eq_ok_iff.1 h
    obtain ⟨⟨username, c2⟩, husername, h⟩ := bind_eq_ok_iff.1 h
    obtain ⟨⟨size, c3⟩, hsize, h⟩ := bind_eq_ok_iff.1 h
    cases h
    exact ((hcase.append (u16 hversion)).append (text husername)).append (Spends.size hsize)
  case «1» =>
    obtain ⟨⟨proof, c1⟩, hproof, h⟩ := bind_eq_ok_iff.1 h
    cases h
    exact hcase.append (bytes hproof)
  case «2» =>
    obtain ⟨⟨event, c1⟩, hevent, h⟩ := bind_eq_ok_iff.1 h
    cases h
    exact hcase.append (Spends.event hevent)
  case «3» =>
    cases h
    exact hcase
  case «4» =>
    obtain ⟨⟨size, c1⟩, hsize, h⟩ := bind_eq_ok_iff.1 h
    cases h
    exact hcase.append (Spends.size hsize)
  case «5» =>
    cases h
    exact hcase

theorem server {m : ServerMessage} (h : c.server = .ok (m, after)) : Spends c after (putServer m) := by
  obtain ⟨⟨index, d⟩, hindex, h⟩ := bind_eq_ok_iff.1 h
  obtain ⟨hcase, hlt⟩ := caseOf hindex
  interval_cases index
  case «0» =>
    obtain ⟨⟨nonce, c1⟩, hnonce, h⟩ := bind_eq_ok_iff.1 h
    cases h
    exact hcase.append (bytes hnonce)
  case «1» =>
    obtain ⟨⟨accepted, c1⟩, haccepted, h⟩ := bind_eq_ok_iff.1 h
    cases h
    exact hcase.append (bool haccepted)
  case «2» =>
    obtain ⟨⟨update, c1⟩, hupdate, h⟩ := bind_eq_ok_iff.1 h
    cases h
    exact hcase.append (Spends.update hupdate)
  case «3» =>
    obtain ⟨⟨part, c1⟩, hpart, h⟩ := bind_eq_ok_iff.1 h
    cases h
    exact hcase.append (Spends.update hpart)

/-- A payload that is read as a whole is at least as long as what is written for its value, and is that if it is
as long. -/
theorem of_whole {α : Type} {read : Reader α} {put : α → ByteArray}
    (hread : ∀ {c after : Cursor} {a : α}, read c = .ok (a, after) → Spends c after (put a)) {payload : ByteArray} {a : α}
    (h : Cursor.whole read payload = .ok a) :
    (put a).size ≤ payload.size ∧ ((put a).size = payload.size → put a = payload) := by
  obtain ⟨⟨value, after⟩, hvalue, h⟩ := bind_eq_ok_iff.1 h
  dsimp only at h
  split at h
  next hdone =>
    cases h
    obtain ⟨taken, hrest, hle, heq⟩ := hread hvalue
    have hnil : after.rest = [] := List.length_eq_zero_iff.1 (after.length_rest.trans hdone)
    have htaken : payload.data.toList = taken := by
      rw [hnil, List.append_nil] at hrest
      exact hrest
    have hsize : taken.length = payload.size := by rw [← htaken, Bytes.length_toList]
    rw [hsize] at hle heq
    exact ⟨hle, fun h => Bytes.ext_toList ((heq h).trans htaken.symm)⟩
  next => cases h

end Spends

/-! ### Payloads -/

/-- What is written for the message of a payload is no longer than the payload, and is the payload if it is as long;
no other payload of that length is read as the message if it or this one is what is written. -/
def HasShortest {α : Type} (encode : α → Except EncodeError ByteArray) (decode : ByteArray → Except DecodeError α)
    (payload : ByteArray) (m : α) : Prop :=
  ∃ written, encode m = .ok written ∧ written.size ≤ payload.size ∧ (written.size = payload.size → written = payload) ∧
    ∀ other, decode other = .ok m → other.size = payload.size → written = payload ∨ written = other → other = payload

theorem Spends.hasShortest {α : Type} {read : Reader α} {put : α → ByteArray}
    (hread : ∀ {c after : Cursor} {a : α}, read c = .ok (a, after) → Spends c after (put a)) {payload : ByteArray}
    (hp : payload.size ≤ maxFrameLength) {m : α} (h : Cursor.whole read payload = .ok m) :
    HasShortest (fun m => limited (put m)) (Cursor.whole read) payload m := by
  obtain ⟨hle, heq⟩ := of_whole hread h
  refine ⟨put m, limited_eq_ok_iff.2 ⟨Nat.le_trans hle hp, rfl⟩, hle, heq, fun other hother hsize => ?_⟩
  rintro (rfl | rfl)
  · exact ((of_whole hread hother).2 hsize.symm).symm
  · exact heq hsize

/-- **Accepted messages have one shortest form.** A message that was read can be sent again. Its payload does not grow
by that, and if it does not shrink either, it is the same. -/
theorem written_shortest {payload : ByteArray} (hp : payload.size ≤ maxFrameLength) :
    (∀ m, ClientMessage.decode payload = .ok m → HasShortest ClientMessage.encode ClientMessage.decode payload m) ∧
      ∀ m, ServerMessage.decode payload = .ok m → HasShortest ServerMessage.encode ServerMessage.decode payload m :=
  ⟨fun _ => Spends.hasShortest Spends.client hp, fun _ => Spends.hasShortest Spends.server hp⟩

/-- A payload of over-long integers that either side can read, each in its own way. -/
theorem written_shortest_hello_challenge :
    let payload := Bytes.ofList [251, 0, 0, 251, 3, 0, 0, 5, 6]
    payload.size ≤ maxFrameLength ∧ ClientMessage.decode payload = .ok (.hello 3 "" ⟨5, 6⟩) ∧
      HasShortest ClientMessage.encode ClientMessage.decode payload (.hello 3 "" ⟨5, 6⟩) ∧
      ServerMessage.decode payload = .ok (.challenge (Bytes.ofList [0, 5, 6])) ∧
      HasShortest ServerMessage.encode ServerMessage.decode payload (.challenge (Bytes.ofList [0, 5, 6])) := by
  intro payload
  have hp : payload.size ≤ maxFrameLength := by decide
  have hhello : ClientMessage.decode payload = .ok (.hello 3 "" ⟨5, 6⟩) := by decide +kernel
  have hchallenge : ServerMessage.decode payload = .ok (.challenge (Bytes.ofList [0, 5, 6])) := by decide +kernel
  exact ⟨hp, hhello, (written_shortest hp).1 _ hhello, hchallenge, (written_shortest hp).2 _ hchallenge⟩

end RemoteDesktop.Wire
