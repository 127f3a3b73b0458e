import RemoteDesktop.Credential.Record
import RemoteDesktop.Proofs.Bytes

/-!
# Records are read back

A record is one line, in which colons stand between the fields and nowhere else (`fields?_line`). The hash
in it is read back from its digits (`ofHex?_toHex`). So whoever is looked up in a file with one record that
is not cut gets the hash of its user if the names agree, and is told otherwise that there is no record of
that name: `read_file`.
-/

namespace RemoteDesktop

/-! ### Hexadecimal digits -/

/-- Reading back the digits of a byte string. -/
theorem Bytes.ofHex?_flatMap_hexByte (upper : Bool) (bytes : List UInt8) :
    ofHex? (bytes.flatMap (hexByte upper)) = some bytes := by
  induction bytes with
  | nil => rfl
  | cons b bytes ih =>
    have hb := b.toNat_lt
    have hhigh := hexValue?_hexDigit upper (show b.toNat / 16 < 16 by omega)
    have hlow := hexValue?_hexDigit upper (show b.toNat % 16 < 16 by omega)
    have hbyte : UInt8.ofNat (16 * (b.toNat / 16) + b.toNat % 16) = b := by
      rw [Nat.div_add_mod, UInt8.ofNat_toNat]
    rw [List.flatMap_cons, hexByte, List.cons_append, List.cons_append, List.nil_append, ofHex?, hhigh, hlow, ih]
    simp only [Option.bind_eq_bind, Option.bind_some, hbyte]

/-! ### Pieces of texts -/

namespace Text

/-- The first piece ends where the separator stands first. -/
theorem splitAt_append_cons {separator : Char} {front : List Char} (h : separator ∉ front) (rest : List Char) :
    splitAt separator (front ++ separator :: rest) = front :: splitAt separator rest := by
  induction front with
  | nil =>
    rw [List.nil_append, splitAt]
    split
    next hnil => exact absurd hnil (splitAt_ne_nil _ _)
    next hcons => rw [hcons, if_pos rfl]
  | cons c front ih =>
    obtain ⟨hc, hfront⟩ := not_or.1 (mt List.mem_cons.2 h)
    rw [List.cons_append, splitAt, ih hfront]
    exact if_neg (Ne.symm hc)

theorem splitAt_of_not_mem {separator : Char} {text : List Char} (h : separator ∉ text) :
    splitAt separator text = [text] := by
  induction text with
  | nil => rfl
  | cons c text ih =>
    obtain ⟨hc, htext⟩ := not_or.1 (mt List.mem_cons.2 h)
    rw [splitAt, ih htext]
    exact if_neg (Ne.symm hc)

/-- The pieces of a part of a text are those of the text, but the last of them may be cut. -/
theorem splitAt_of_isPrefix (separator : Char) {part text : List Char} (h : part <+: text) :
    ∃ front last piece rest, splitAt separator part = front ++ [last] ∧
      splitAt separator text = front ++ piece :: rest ∧ last <+: piece := by
  induction part generalizing text with
  | nil =>
    obtain ⟨piece, rest, hpieces⟩ := List.exists_cons_of_ne_nil (splitAt_ne_nil separator text)
    exact ⟨[], [], piece, rest, rfl, hpieces, List.nil_prefix⟩
  | cons c part ih =>
    obtain ⟨text, rfl, hpart⟩ := List.cons_prefix_iff.1 h
    obtain ⟨front, last, piece, rest, hlast, hpiece, hcut⟩ := ih hpart
    rw [splitAt, splitAt, hlast, hpiece]
    by_cases hc : c = separator
    · refine ⟨[] :: front, last, piece, rest, ?_, ?_, hcut⟩
      · cases front <;> simp [hc]
      · cases front <;> simp [hc]
    · cases front with
      | nil => exact ⟨[], c :: last, c :: piece, rest, by simp [hc], by simp [hc], by simpa using hcut⟩
      | cons first front => exact ⟨(c :: first) :: front, last, piece, rest, by simp [hc], by simp [hc], hcut⟩

/-- A text without blanks has nothing to trim. -/
theorem trim_of_forall {text : List Char} (h : ∀ c ∈ text, isBlank c = false) : trim text = text := by
  have hdrop : ∀ {text : List Char}, (∀ c ∈ text, isBlank c = false) → text.dropWhile isBlank = text := by
    intro text htext
    cases text with
    | nil => rfl
    | cons c text => exact List.dropWhile_cons_of_neg (by rw [htext c List.mem_cons_self]; exact Bool.false_ne_true)
  rw [trim, hdrop h, hdrop fun c hc => h c (List.mem_reverse.1 hc), List.reverse_reverse]

end Text

/-! ### Hashes -/

namespace NtHash

theorem exists_eq_of_mem_toHex {hash : NtHash} {c : Char} (h : c ∈ hash.toHex) :
    ∃ n : Fin 16, c = Bytes.hexDigit true n := by
  obtain ⟨b, -, hc⟩ := List.mem_flatMap.1 h
  have hb := b.toNat_lt
  rcases List.mem_cons.1 hc with rfl | hc
  · exact ⟨⟨b.toNat / 16, by omega⟩, rfl⟩
  · exact ⟨⟨b.toNat % 16, by omega⟩, List.mem_singleton.1 hc⟩

/-- The digits of a hash are neither separators nor blanks. -/
theorem plain_of_mem_toHex {hash : NtHash} {c : Char} (h : c ∈ hash.toHex) :
    c ≠ ':' ∧ c ≠ '\n' ∧ Text.isBlank c = false := by
  have hdigit : ∀ n : Fin 16, Bytes.hexDigit true n ≠ ':' ∧ Bytes.hexDigit true n ≠ '\n' ∧
      Text.isBlank (Bytes.hexDigit true n) = false := by decide
  obtain ⟨n, rfl⟩ := exists_eq_of_mem_toHex h
  exact hdigit n

theorem ofHex?_toHex (hash : NtHash) : ofHex? hash.toHex = some hash := by
  have htrim : Text.trim hash.toHex = hash.toHex := Text.trim_of_forall fun c hc => (plain_of_mem_toHex hc).2.2
  have hbytes : Bytes.ofHex? hash.toHex = some hash.bytes := Bytes.ofHex?_flatMap_hexByte true hash.bytes
  rw [ofHex?, htrim, hbytes]
  exact dif_pos hash.length_bytes

end NtHash

/-! ### Records -/

namespace Record

theorem checkUsername_eq_ok_iff {username : String} :
    checkUsername username = .ok () ↔ username.isEmpty = false ∧ ∀ c ∈ username.toList, isSeparator c = false := by
  have hany : username.toList.any isSeparator = false ↔ ∀ c ∈ username.toList, isSeparator c = false := by simp
  rw [checkUsername]
  cases username.isEmpty with
  | true => simp
  | false =>
    rw [← hany]
    cases username.toList.any isSeparator <;> simp

/-- The line that a record is. -/
def line (username : String) (hash : NtHash) : List Char :=
  username.toList ++ ":::".toList ++ hash.toHex ++ ":::".toList

/-- What a reader needs of a record. -/
def stem (username : String) (hash : NtHash) : List Char := username.toList ++ ":::".toList ++ hash.toHex

theorem write_eq (username : String) (hash : NtHash) : write username hash = line username hash ++ ['\n'] := by
  rw [write, line, List.append_assoc _ ":::".toList ['\n']]
  rfl

variable {username : String} (hash : NtHash)

/-- A record says what it says as soon as the hash is complete. -/
theorem fields?_stem_append (h : checkUsername username = .ok ()) {rest : List Char}
    (hrest : rest = [] ∨ ∃ more, rest = ':' :: more) :
    fields? (stem username hash ++ rest) = some (username.toList, hash.toHex) := by
  have hname : ':' ∉ username.toList := fun hc => absurd ((checkUsername_eq_ok_iff.1 h).2 _ hc) (by decide)
  have hdigits : ':' ∉ hash.toHex := fun hc => (NtHash.plain_of_mem_toHex hc).1 rfl
  have hstem : stem username hash ++ rest =
      username.toList ++ ':' :: ([] ++ ':' :: ([] ++ ':' :: (hash.toHex ++ rest))) := by
    simp [stem]
  have hpieces : ∃ more, Text.splitAt ':' (hash.toHex ++ rest) = hash.toHex :: more := by
    rcases hrest with rfl | ⟨more, rfl⟩
    · exact ⟨[], by rw [List.append_nil, Text.splitAt_of_not_mem hdigits]⟩
    · exact ⟨_, Text.splitAt_append_cons hdigits more⟩
  obtain ⟨more, hpieces⟩ := hpieces
  rw [fields?, hstem, Text.splitAt_append_cons hname, Text.splitAt_append_cons List.not_mem_nil,
    Text.splitAt_append_cons List.not_mem_nil, hpieces]

theorem fields?_line (h : checkUsername username = .ok ()) :
    fields? (line username hash) = some (username.toList, hash.toHex) :=
  fields?_stem_append hash h (Or.inr ⟨"::".toList, rfl⟩)

theorem newline_not_mem_line (h : checkUsername username = .ok ()) : '\n' ∉ line username hash := by
  have hname : '\n' ∉ username.toList := fun hc => absurd ((checkUsername_eq_ok_iff.1 h).2 _ hc) (by decide)
  have hdigits : '\n' ∉ hash.toHex := fun hc => (NtHash.plain_of_mem_toHex hc).2.1 rfl
  simp only [line, List.mem_append, not_or]
  exact ⟨⟨⟨hname, by decide⟩, hdigits⟩, by decide⟩

theorem lines_write (h : checkUsername username = .ok ()) :
    Text.lines (write username hash) = [line username hash] := by
  have hreturn : Text.dropReturn (line username hash) = line username hash := by
    rw [Text.dropReturn, line, List.reverse_append]
    rfl
  rw [write_eq, Text.lines, Text.splitAt_append_cons (newline_not_mem_line hash h)]
  show [Text.dropReturn (line username hash)] ++ [] = _
  rw [hreturn, List.append_nil]

/-- The record of a user is found under every name that differs in the case of ASCII letters only. -/
theorem find?_write (h : checkUsername username = .ok ()) (name : List Char) :
    find? name (Text.lines (write username hash)) =
      if Text.SameAscii username.toList name then some hash else none := by
  rw [lines_write hash h, find?, fields?_line hash h]
  simp only [NtHash.ofHex?_toHex, find?]

/-- A record that fits into what is looked at is read back for its user, and for nobody else. -/
theorem read_file (path name : String) (h : checkUsername username = .ok ())
    (hfits : (file username hash).size ≤ readLimit) :
    read path (file username hash) name =
      if Text.SameAscii username.toList name.toList then .ok hash else .error (.malformedRecord path) := by
  rw [read, Bytes.extract_zero_of_le hfits, file, Bytes.fromUTF8?_toUTF8]
  simp only [String.toList_ofList, find?_write hash h]
  by_cases hsame : Text.SameAscii username.toList name.toList
  · rw [if_pos hsame, if_pos hsame]
  · rw [if_neg hsame, if_neg hsame]

end Record

end RemoteDesktop
