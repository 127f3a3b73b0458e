import RemoteDesktop.Proofs.Credential.Custody
import RemoteDesktop.Proofs.Login

/-!
# A record that is cut

A reader looks at the first bytes of a file only, so it may see no more than a part of a record, cut in the name,
between the colons, among the digits, or inside a character. A part of the bytes that is a text is a part of the text
(`Text.isPrefix_of_fromUTF8?_extract`), and the fields of a part of a line are the first fields of the line, the last of
which may be cut (`fields?_of_isPrefix`). A hash that lacks a digit is none (`NtHash.eq_of_ofHex?_of_isPrefix`). So a
part of a record says what the record says, if it has the whole hash, and else nothing: `read_cut_eq_ok_iff`.

Main statements: `Directory.record_is_readable_iff`, `Directory.record_authenticates_only_its_user`.
-/

namespace RemoteDesktop

/-! ### Hexadecimal digits -/

theorem Bytes.length_of_ofHex? {digits : List Char} {bytes : List UInt8} (h : ofHex? digits = some bytes) :
    digits.length = 2 * bytes.length := by
  fun_induction ofHex? digits generalizing bytes with
  | case1 =>
    cases h
    rfl
  | case2 => cases h
  | case3 high low rest ih =>
    simp only [Option.bind_eq_bind, Option.bind_eq_some_iff] at h
    obtain ⟨_, -, _, -, tail, htail, h⟩ := h
    cases h
    simp only [List.length_cons, ih htail]
    omega

namespace NtHash

theorem length_toHex (hash : NtHash) : hash.toHex.length = 32 := by
  have h := Bytes.length_of_ofHex? (Bytes.ofHex?_flatMap_hexByte true hash.bytes)
  rw [hash.length_bytes] at h
  exact h

theorem ascii_of_mem_toHex {hash : NtHash} {c : Char} (h : c ∈ hash.toHex) : c.utf8Size = 1 := by
  have hdigit : ∀ n : Fin 16, (Bytes.hexDigit true n).utf8Size = 1 := by decide
  obtain ⟨n, rfl⟩ := exists_eq_of_mem_toHex h
  exact hdigit n

/-- The first digits of a hash write no other hash. -/
theorem eq_of_ofHex?_of_isPrefix {hash found : NtHash} {digits : List Char} (hdigits : digits <+: hash.toHex)
    (h : ofHex? digits = some found) : digits = hash.toHex ∧ found = hash := by
  have htrim : Text.trim digits = digits := Text.trim_of_forall fun c hc => (plain_of_mem_toHex (hdigits.subset hc)).2.2
  have hlength : digits.length = 32 := by
    rw [ofHex?, htrim] at h
    cases hbytes : Bytes.ofHex? digits with
    | none =>
      rw [hbytes] at h
      cases h
    | some bytes =>
      simp only [hbytes] at h
      split at h
      next hlength => rw [Bytes.length_of_ofHex? hbytes, hlength]
      next => cases h
  obtain rfl := hdigits.eq_of_length (hlength.trans hash.length_toHex.symm)
  rw [ofHex?_toHex] at h
  exact ⟨rfl, (Option.some.inj h).symm⟩

end NtHash

/-! ### Texts that are cut -/

namespace Text

/-- A text of ASCII characters has as many bytes as characters. -/
theorem utf8ByteSize_of_ascii {text : List Char} (h : ∀ c ∈ text, c.utf8Size = 1) :
    (String.ofList text).utf8ByteSize = text.length := by
  induction text with
  | nil => rfl
  | cons c text ih =>
    have hc := h c List.mem_cons_self
    rw [String.ofList_cons, String.utf8ByteSize_append, String.utf8ByteSize_singleton, hc,
      ih fun b hb => h b (List.mem_cons_of_mem _ hb), List.length_cons]
    exact Nat.add_comm _ _

/-- What the first bytes of a text write is a part of the text. -/
theorem isPrefix_of_fromUTF8?_extract {whole part : String} {n : Nat}
    (h : String.fromUTF8? (whole.toUTF8.extract 0 n) = some part) : part.toList <+: whole.toList := by
  have hpart : part.toUTF8 = whole.toUTF8.extract 0 n := Bytes.toUTF8_of_fromUTF8? h
  have hbytes : part.toUTF8 ++ whole.toUTF8.extract n whole.toUTF8.size = whole.toUTF8 := by
    rw [hpart, Bytes.extract_append_extract_size (Nat.zero_le n), ByteArray.extract_zero_size]
  rw [← String.ofList_toList (s := part), ← String.ofList_toList (s := whole)] at hbytes
  exact List.isPrefix_of_utf8Encode_append_eq_utf8Encode _ (by simpa using hbytes)

end Text

namespace Record

variable {username : String} {hash : NtHash} {part : List Char}

theorem fields?_eq_some_iff {line user digits : List Char} :
    fields? line = some (user, digits) ↔ ∃ more, Text.splitAt ':' line = user :: [] :: [] :: digits :: more := by
  rw [fields?]
  constructor
  · intro h
    split at h
    next hpieces =>
      cases h
      exact ⟨_, hpieces⟩
    next => cases h
  · rintro ⟨more, hpieces⟩
    rw [hpieces]

/-- Fields that are read stand in the line, with three colons between them. -/
theorem isPrefix_of_fields? {line user digits : List Char} (h : fields? line = some (user, digits)) :
    user ++ ":::".toList ++ digits <+: line := by
  obtain ⟨more, hpieces⟩ := fields?_eq_some_iff.1 h
  have hline := Text.joinWith_splitAt ':' line
  rw [hpieces] at hline
  cases more with
  | nil => exact ⟨[], by simpa [Text.joinWith] using hline⟩
  | cons piece more => exact ⟨':' :: Text.joinWith ':' (piece :: more), by simpa [Text.joinWith] using hline⟩

/-- The fields of a part of a record are the user and the first digits of the hash. -/
theorem fields?_of_isPrefix (h : checkUsername username = .ok ()) (hpart : part <+: line username hash)
    {user digits : List Char} (hfields : fields? part = some (user, digits)) :
    user = username.toList ∧ digits <+: hash.toHex := by
  obtain ⟨more, hmore⟩ := fields?_eq_some_iff.1 hfields
  obtain ⟨all, hall⟩ := fields?_eq_some_iff.1 (fields?_line hash h)
  obtain ⟨front, last, piece, rest, hlast, hpiece, hcut⟩ := Text.splitAt_of_isPrefix ':' hpart
  rw [hmore] at hlast
  rw [hall] at hpiece
  -- the hash is the fourth piece: it is the last one of the part, or there are pieces behind it
  rcases front with _ | ⟨a, _ | ⟨b, _ | ⟨c, _ | ⟨d, front⟩⟩⟩⟩
  · cases hlast
  · cases hlast
  · cases hlast
  · cases hlast
    cases hpiece
    exact ⟨rfl, hcut⟩
  · cases hlast
    cases hpiece
    exact ⟨rfl, List.prefix_refl _⟩

theorem find?_singleton_eq_some_iff {name line : List Char} {found : NtHash} :
    find? name [line] = some found ↔
      ∃ user digits, fields? line = some (user, digits) ∧ Text.SameAscii user name ∧ NtHash.ofHex? digits = some found := by
  rw [find?]
  cases hfields : fields? line with
  | none => simp [find?]
  | some pair =>
    obtain ⟨user, digits⟩ := pair
    by_cases hsame : Text.SameAscii user name
    · simp [hsame]
    · simp [hsame, find?]

/-- A text without line ends is one line, or none. -/
theorem find?_lines_of_not_mem (h : '\n' ∉ part) (name : List Char) : find? name (Text.lines part) = find? name [part] := by
  rw [Text.lines, Text.splitAt_of_not_mem h]
  cases part with
  | nil => rfl
  | cons c part => rfl

/-- The record is found in a part of it exactly if the part has the whole hash. -/
theorem find?_lines_of_isPrefix (h : checkUsername username = .ok ()) (hpart : part <+: write username hash)
    {name : List Char} {found : NtHash} :
    find? name (Text.lines part) = some found ↔
      found = hash ∧ Text.SameAscii username.toList name ∧ stem username hash <+: part := by
  rw [write_eq, List.prefix_concat_iff, ← write_eq] at hpart
  rcases hpart with rfl | hpart
  · have hstem : stem username hash <+: write username hash := List.prefix_append _ _
    rw [find?_write hash h, ite_eq_iff]
    simp [hstem, eq_comm, and_comm]
  · have hline : '\n' ∉ part := fun hmem => newline_not_mem_line hash h (hpart.subset hmem)
    rw [find?_lines_of_not_mem hline, find?_singleton_eq_some_iff]
    constructor
    · rintro ⟨user, digits, hfields, hsame, hfound⟩
      have hstem := isPrefix_of_fields? hfields
      obtain ⟨rfl, hdigits⟩ := fields?_of_isPrefix h hpart hfields
      obtain ⟨rfl, rfl⟩ := NtHash.eq_of_ofHex?_of_isPrefix hdigits hfound
      exact ⟨rfl, hsame, hstem⟩
    · rintro ⟨rfl, hsame, rest, rfl⟩
      have hrest : rest <+: [':', ':', ':'] := (List.prefix_append_right_inj _).1 hpart
      refine ⟨_, _, fields?_stem_append found h ?_, hsame, found.ofHex?_toHex⟩
      cases rest with
      | nil => exact Or.inl rfl
      | cons c more => exact Or.inr ⟨more, by rw [(List.cons_prefix_cons.1 hrest).1]⟩

/-! ### Bytes -/

/-- The bytes of a record up to the end of the hash. -/
theorem utf8ByteSize_stem (username : String) (hash : NtHash) :
    (String.ofList (stem username hash)).utf8ByteSize = username.utf8ByteSize + 35 := by
  rw [stem, String.ofList_append, String.ofList_append, String.utf8ByteSize_append, String.utf8ByteSize_append,
    String.ofList_toList, Text.utf8ByteSize_of_ascii fun c hc => hash.ascii_of_mem_toHex hc, hash.length_toHex]
  rfl

theorem file_eq (username : String) (hash : NtHash) :
    file username hash = (String.ofList (stem username hash)).toUTF8 ++ ":::\n".toUTF8 := by
  have hwrite : write username hash = stem username hash ++ ":::\n".toList := rfl
  rw [file, hwrite, String.ofList_append, String.ofList_toList]
  exact String.toByteArray_append

/-- The first bytes of a record are a text if they have the whole hash. -/
theorem fromUTF8?_extract_file (hash : NtHash) {n : Nat} (hn : username.utf8ByteSize + 35 ≤ n) :
    ∃ text, String.fromUTF8? ((file username hash).extract 0 n) = some text ∧ stem username hash <+: text.toList := by
  have hsize : (String.ofList (stem username hash)).toUTF8.size = username.utf8ByteSize + 35 := utf8ByteSize_stem _ _
  have htail : ∀ k, ∃ tail : String, ":::\n".toUTF8.extract 0 k = tail.toUTF8
    | 0 => ⟨"", by decide⟩
    | 1 => ⟨":", by decide⟩
    | 2 => ⟨"::", by decide⟩
    | 3 => ⟨":::", by decide⟩
    | k + 4 => ⟨":::\n", Bytes.extract_zero_of_le (Nat.le_add_left 4 k)⟩
  obtain ⟨tail, htail⟩ := htail (n - (username.utf8ByteSize + 35))
  refine ⟨String.ofList (stem username hash) ++ tail, ?_, ?_⟩
  · rw [file_eq, ByteArray.extract_append, Bytes.extract_zero_of_le (by omega), hsize, Nat.zero_sub, htail,
      ← Bytes.fromUTF8?_toUTF8]
    exact congrArg String.fromUTF8? String.toByteArray_append.symm
  · rw [String.toList_append, String.toList_ofList]
    exact List.prefix_append _ _

/-- A part of a record that is a text and has the whole hash is long enough to have it. -/
theorem le_of_fromUTF8?_extract_file {n : Nat} {text : String}
    (h : String.fromUTF8? ((file username hash).extract 0 n) = some text) (hstem : stem username hash <+: text.toList) :
    username.utf8ByteSize + 35 ≤ n := by
  obtain ⟨rest, hrest⟩ := hstem
  have htext : text = String.ofList (stem username hash) ++ String.ofList rest := by
    rw [← String.ofList_append, hrest, String.ofList_toList]
  have hsize : text.utf8ByteSize = ((file username hash).extract 0 n).size :=
    congrArg ByteArray.size (Bytes.toUTF8_of_fromUTF8? h)
  rw [htext, String.utf8ByteSize_append, utf8ByteSize_stem, ByteArray.size_extract] at hsize
  omega

/-- A reader that sees a part of a record finds what it would find in the whole one, if it sees the whole hash, and
else nothing. -/
theorem read_cut_eq_ok_iff (hash : NtHash) (h : checkUsername username = .ok ()) (path name : String) (cut : Nat)
    (found : NtHash) :
    read path ((file username hash).extract 0 cut) name = .ok found ↔
      found = hash ∧ Text.SameAscii username.toList name.toList ∧ username.utf8ByteSize + 35 ≤ min cut readLimit := by
  rw [read, ByteArray.extract_extract, Nat.zero_add, Nat.zero_add, Nat.min_comm]
  cases htext : String.fromUTF8? ((file username hash).extract 0 (min cut readLimit)) with
  | none =>
    refine iff_of_false (by simp) ?_
    rintro ⟨-, -, hlong⟩
    obtain ⟨text, hsome, -⟩ := fromUTF8?_extract_file hash hlong
    rw [htext] at hsome
    cases hsome
  | some text =>
    have hpart : text.toList <+: write username hash := by
      have := Text.isPrefix_of_fromUTF8?_extract htext
      rwa [String.toList_ofList] at this
    have hstem : stem username hash <+: text.toList ↔ username.utf8ByteSize + 35 ≤ min cut readLimit := by
      refine ⟨le_of_fromUTF8?_extract_file htext, fun hlong => ?_⟩
      obtain ⟨_, hsome, hstem⟩ := fromUTF8?_extract_file hash hlong
      rw [htext] at hsome
      cases hsome
      exact hstem
    rw [← hstem, ← find?_lines_of_isPrefix h hpart]
    dsimp only
    cases find? name.toList (Text.lines text.toList) <;> simp

theorem size_file (username : String) (hash : NtHash) : (file username hash).size = username.utf8ByteSize + 39 := by
  rw [file_eq, ByteArray.size_append]
  exact congrArg (· + 4) (utf8ByteSize_stem username hash)

theorem read_file_eq_ok_iff (h : checkUsername username = .ok ()) (path name : String) (found : NtHash) :
    read path (file username hash) name = .ok found ↔
      found = hash ∧ Text.SameAscii username.toList name.toList ∧ username.utf8ByteSize ≤ 4061 := by
  have hread := read_cut_eq_ok_iff hash h path name (file username hash).size found
  have hfits : username.utf8ByteSize + 35 ≤ min (username.utf8ByteSize + 39) readLimit ↔ username.utf8ByteSize ≤ 4061 := by
    rw [readLimit]
    omega
  rwa [ByteArray.extract_zero_size, size_file, hfits] at hread

end Record

/-! ### Records of a directory -/

namespace Directory

variable {d after : Directory} {path username : String} {hash : NtHash}

theorem issue_of_free (hname : Record.checkUsername username = .ok ()) (hfree : d.contents? path = none) (hash : NtHash) :
    ∃ after, d.issue path none username hash = (.ok { username, hash, path }, after) ∧
      after.contents? path = some (Record.file username hash) := by
  obtain ⟨after, hstored, hfiles⟩ := store_of_free hfree username hash
  exact ⟨after, by rw [issue, hname]; exact hstored, contents?_append hfree hfiles⟩

/-- A credential that is issued comes with its record. -/
theorem contents?_of_issue {writeFailure : Option FileError} {credential : Credential}
    (h : d.issue path writeFailure username hash = (.ok credential, after)) :
    Record.checkUsername username = .ok () ∧ after.contents? credential.path = some (Record.file username hash) := by
  rw [issue] at h
  cases hname : Record.checkUsername username with
  | error e =>
    rw [hname] at h
    cases h
  | ok _ =>
    rw [hname] at h
    rcases store_cases path writeFailure username hash d with ⟨e, hrefused⟩ | ⟨hfree, next, hstored, hfiles⟩
    · cases h.symm.trans hrefused
    · cases h.symm.trans hstored
      exact ⟨rfl, contents?_append hfree hfiles⟩

/-- **Which records are read back.** A name that can be written in a record gets one under any free path. The hash is
read back from it for the names that differ in the case of ASCII letters only, as long as the name has no more than 4061
bytes; a longer one takes the hash out of sight of the reader. -/
theorem record_is_readable_iff (hname : Record.checkUsername username = .ok ()) (hfree : d.contents? path = none)
    (hash : NtHash) :
    ∃ credential after, d.issue path none username hash = (.ok credential, after) ∧
      ∀ name, after.read credential.path name = .ok hash ↔
        Text.SameAscii username.toList name.toList ∧ username.utf8ByteSize ≤ 4061 := by
  obtain ⟨after, hissue, hcontents⟩ := issue_of_free hname hfree hash
  refine ⟨_, after, hissue, fun name => ?_⟩
  rw [read, hcontents]
  exact (Record.read_file_eq_ok_iff hname path name hash).trans (and_iff_right rfl)

/-- The record of a short name is read back under the name in capital letters. -/
theorem record_is_readable_iff_alice :
    Record.checkUsername "alice" = .ok () ∧ Directory.contents? {} "sam-0" = none ∧
      ∃ credential after, Directory.issue "sam-0" none "alice" Custody.zeroHash {} = (.ok credential, after) ∧
        after.read credential.path "ALICE" = .ok Custody.zeroHash := by
  have hname : Record.checkUsername "alice" = .ok () := by decide
  have hfree : Directory.contents? {} "sam-0" = none := rfl
  obtain ⟨credential, after, hissue, hread⟩ := record_is_readable_iff hname hfree Custody.zeroHash
  exact ⟨hname, hfree, credential, after, hissue, (hread "ALICE").2 ⟨by decide, by decide⟩⟩

/-- The record of a name of 4062 letters is not read back. -/
theorem long_name_is_not_read_back :
    let username := String.ofList (List.replicate 4062 'a')
    Record.checkUsername username = .ok () ∧
      ∃ credential after, Directory.issue "sam-0" none username Custody.zeroHash {} = (.ok credential, after) ∧
        after.read credential.path username ≠ .ok Custody.zeroHash := by
  intro username
  have hsize : username.utf8ByteSize = 4062 := by
    rw [Text.utf8ByteSize_of_ascii fun c hc => by rw [List.eq_of_mem_replicate hc]; decide, List.length_replicate]
  have hname : Record.checkUsername username = .ok () := by
    rw [Record.checkUsername_eq_ok_iff, String.toList_ofList, String.isEmpty, hsize]
    exact ⟨rfl, fun c hc => by rw [List.eq_of_mem_replicate hc]; decide⟩
  have hfree : Directory.contents? {} "sam-0" = none := rfl
  obtain ⟨after, hissue, hcontents⟩ := issue_of_free hname hfree Custody.zeroHash
  refine ⟨hname, _, after, hissue, fun hread => ?_⟩
  rw [read, hcontents] at hread
  have hshort := (Record.read_file_eq_ok_iff hname "sam-0" username Custody.zeroHash).1 hread
  omega

/-- **A record authenticates its user only.** Whatever name is looked up in the record of a credential, and wherever the
record is cut: a hash is found exactly if the cut leaves it whole and the name is the user's but for the case of ASCII
letters, and it is the one written. So only a proof that is made with this hash under such a name is accepted. -/
theorem record_authenticates_only_its_user {writeFailure : Option FileError} {credential : Credential}
    (hissue : d.issue path writeFailure username hash = (.ok credential, after)) :
    (∀ name found, after.read credential.path name = .ok found →
      found = hash ∧ Text.SameAscii username.toList name.toList) ∧
    ∃ contents, after.contents? credential.path = some contents ∧ ∀ cut name,
      (∀ found, Record.read credential.path (contents.extract 0 cut) name = .ok found ↔
        found = hash ∧ Text.SameAscii username.toList name.toList ∧
          username.utf8ByteSize + 35 ≤ min cut Record.readLimit) ∧
      ∀ nonce proof, Login.judge (Record.read credential.path (contents.extract 0 cut)) nonce name proof = .ok true ↔
        Login.Knows username hash nonce name proof ∧ username.utf8ByteSize + 35 ≤ min cut Record.readLimit := by
  obtain ⟨hname, hcontents⟩ := contents?_of_issue hissue
  refine ⟨fun name found hread => ?_, _, hcontents, fun cut name => ?_⟩
  · rw [read, hcontents] at hread
    obtain ⟨hfound, hsame, -⟩ := (Record.read_file_eq_ok_iff hname _ name found).1 hread
    exact ⟨hfound, hsame⟩
  · have hread := Record.read_cut_eq_ok_iff hash hname credential.path name cut
    refine ⟨hread, fun nonce proof => ?_⟩
    rw [Login.judge_eq_true_iff]
    constructor
    · rintro ⟨found, hfound, hproof⟩
      obtain ⟨rfl, hsame, hlong⟩ := (hread found).1 hfound
      exact ⟨⟨hsame, hproof⟩, hlong⟩
    · rintro ⟨⟨hsame, hproof⟩, hlong⟩
      exact ⟨hash, (hread hash).2 ⟨rfl, hsame, hlong⟩, hproof⟩

/-- The first 40 bytes of the record of a name of five letters are just enough. -/
theorem record_authenticates_only_its_user_alice :
    ∃ credential after contents, Directory.issue "sam-0" none "alice" Custody.zeroHash {} = (.ok credential, after) ∧
      after.contents? credential.path = some contents ∧
      Record.read credential.path (contents.extract 0 40) "ALICE" = .ok Custody.zeroHash ∧
      (∀ name found, Record.read credential.path (contents.extract 0 39) name ≠ .ok found) ∧
      ∀ nonce proof, Login.judge (Record.read credential.path (contents.extract 0 40)) nonce "bob" proof ≠ .ok true := by
  have hname : Record.checkUsername "alice" = .ok () := by decide
  obtain ⟨after, hissue, -⟩ := issue_of_free hname (show Directory.contents? {} "sam-0" = none from rfl) Custody.zeroHash
  obtain ⟨-, contents, hcontents, hcut⟩ := record_authenticates_only_its_user hissue
  have hother : ¬ Text.SameAscii "alice".toList "bob".toList := by decide
  have hlong : ¬ "alice".utf8ByteSize + 35 ≤ min 39 Record.readLimit := by decide
  refine ⟨_, after, contents, hissue, hcontents, ((hcut 40 "ALICE").1 _).2 ⟨rfl, by decide, by decide⟩,
    fun name found hread => ?_, fun nonce proof hjudge => ?_⟩
  · exact hlong (((hcut 39 name).1 found).1 hread).2.2
  · exact hother (((hcut 40 "bob").2 nonce proof).1 hjudge).1.1

end Directory

end RemoteDesktop
