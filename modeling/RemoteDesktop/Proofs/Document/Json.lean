import RemoteDesktop.Document.Json
import RemoteDesktop.Proofs.Bytes

/-!
# JSON is read back

A written value is read back, and what follows it is left (`readValue_write`). Three things decide where a
value ends: a text ends at the first quote that is not escaped, a number where no digit, point or exponent
follows, and a list or table at its closing bracket. So it is enough that what follows does not continue a
number (`Ends`), which no comma and no bracket does.

A reader looks at values to any depth, each of which takes fuel; twice the length of the text is enough.

Main statement: `document_write`.
-/

namespace RemoteDesktop.Document

/-- A value that can be written without loss: its numbers have at most 64 bits, its texts and keys are texts, and
nothing in it is broken. -/
inductive Value.Writable : Value → Prop where
  | null : Writable .null
  | boolean (b : Bool) : Writable (.boolean b)
  | integer {n : Int} : -0x8000_0000_0000_0000 ≤ n → n < 0x1_0000_0000_0000_0000 → Writable (.integer n)
  | ofString (s : String) : Writable (.ofString s)
  | list {items : List Value} : (∀ item ∈ items, Writable item) → Writable (.list items none)
  | ofEntries {entries : List (String × Value)} :
    (∀ entry ∈ entries, Writable entry.2) → Writable (.ofEntries entries)

namespace Json

/-! ### Texts -/

/-- An escaped control character is read back. -/
theorem readUnits_control {c : Char} (hc : c.toNat < 0x20) (rest : List Char) :
    readUnits ('0' :: '0' :: (Bytes.hexByte false (UInt8.ofNat c.toNat) ++ rest)) = .ok (some c, rest) := by
  have hbyte : (UInt8.ofNat c.toNat).toNat = c.toNat := UInt8.toNat_ofNat_of_lt' (Nat.lt_trans hc (by decide))
  have hhigh := Bytes.hexValue?_hexDigit false (show c.toNat / 16 < 16 by omega)
  have hlow := Bytes.hexValue?_hexDigit false (show c.toNat % 16 < 16 by omega)
  have hzero : Bytes.hexValue? '0' = some 0 := by decide
  have hunit : readUnit ('0' :: '0' :: (Bytes.hexByte false (UInt8.ofNat c.toNat) ++ rest)) = .ok (c.toNat, rest) := by
    simp only [Bytes.hexByte, hbyte, List.cons_append, List.nil_append, readUnit, List.mapM_cons, List.mapM_nil, hhigh,
      hlow, hzero, Option.pure_def, Option.bind_eq_bind, Option.bind_some, List.foldl_cons, List.foldl_nil]
    rw [show 16 * (16 * (16 * (16 * 0 + 0) + 0) + c.toNat / 16) + c.toNat % 16 = c.toNat by omega]
  have htrailing : isTrailing c.toNat = false := by simp [isTrailing]; omega
  have hleading : isLeading c.toNat = false := by simp [isLeading]; omega
  rw [readUnits, hunit]
  simp only [bind, Except.bind, htrailing, hleading, Bool.false_eq_true, if_false, Char.ofNat_toNat]

/-- A character that was written is the next one read. -/
theorem readTextFrom_escapeChar (fuel : Nat) (spelled : List Char) (c : Char) (rest : List Char) :
    readTextFrom (fuel + 1) (some spelled) (escapeChar c ++ rest) = readTextFrom fuel (some (c :: spelled)) rest := by
  fun_cases escapeChar c
  case case8 _ _ _ _ _ _ _ hcontrol =>
    change readTextFrom (fuel + 1) (some spelled)
      ('\\' :: 'u' :: '0' :: '0' :: (Bytes.hexByte false (UInt8.ofNat c.toNat) ++ rest)) = _
    rw [readTextFrom, readEscape, readUnits_control hcontrol]
  case case9 hquote hslash _ _ _ _ _ hcontrol =>
    rw [List.singleton_append, readTextFrom]
    · rw [if_neg hcontrol]
      rfl
    · exact hquote
    · exact hslash
  all_goals rfl

/-- The characters of a text are read up to its closing quote. -/
theorem readTextFrom_flatMap {fuel : Nat} {cs : List Char} (hfuel : cs.length < fuel) (spelled rest : List Char) :
    readTextFrom fuel (some spelled) (cs.flatMap escapeChar ++ '"' :: rest) =
      ⟨.ofString (String.ofList (spelled.reverse ++ cs)), some rest⟩ := by
  induction cs generalizing fuel spelled with
  | nil =>
    obtain ⟨fuel, rfl⟩ := Nat.exists_eq_succ_of_ne_zero (Nat.ne_of_gt hfuel)
    rw [List.flatMap_nil, List.nil_append, List.append_nil]
    rfl
  | cons c cs ih =>
    obtain ⟨fuel, rfl⟩ := Nat.exists_eq_succ_of_ne_zero (Nat.ne_of_gt (Nat.zero_lt_of_lt hfuel))
    rw [List.flatMap_cons, List.append_assoc, readTextFrom_escapeChar, ih (by simpa using hfuel), List.reverse_cons,
      List.append_assoc, List.singleton_append]

theorem escapeChar_ne_nil (c : Char) : escapeChar c ≠ [] := by
  fun_cases escapeChar c <;> simp

/-- Every character takes room in the written text. -/
theorem length_le_flatMap_escapeChar (cs : List Char) : cs.length ≤ (cs.flatMap escapeChar).length := by
  induction cs with
  | nil => exact Nat.le_refl _
  | cons c cs ih =>
    have := List.length_pos_iff.2 (escapeChar_ne_nil c)
    rw [List.flatMap_cons, List.length_append, List.length_cons]
    omega

theorem readText_writeText (s : String) (rest : List Char) :
    readText (s.toList.flatMap escapeChar ++ '"' :: rest) = ⟨.ofString s, some rest⟩ := by
  have hlength := length_le_flatMap_escapeChar s.toList
  rw [readText, readTextFrom_flatMap (by rw [List.length_append]; omega), List.reverse_nil, List.nil_append,
    String.ofList_toList]

/-! ### Numbers -/

/-- What follows a number does not continue it. -/
def Ends (rest : List Char) : Prop := ∀ c, rest.head? = some c → c = ',' ∨ c = ']' ∨ c = '\x7d'

theorem ends_nil : Ends [] := fun _ h => nomatch h

theorem ends_comma (rest : List Char) : Ends (',' :: rest) := fun _ h => .inl (Option.some_inj.1 h).symm

theorem ends_bracket (rest : List Char) : Ends (']' :: rest) := fun _ h => .inr (.inl (Option.some_inj.1 h).symm)

theorem ends_brace (rest : List Char) : Ends ('\x7d' :: rest) := fun _ h => .inr (.inr (Option.some_inj.1 h).symm)

theorem digits_write {rest : List Char} (hends : Ends rest) (n : Nat) :
    digits (Text.Numeral.write 10 n ++ rest) = (Text.Numeral.write 10 n, rest) := by
  have hdigits : ∀ c ∈ Text.Numeral.write 10 n, Text.Numeral.isDigit 10 c = true :=
    Text.Numeral.isDigit_of_mem_write (by decide) (by decide)
  have hrest : rest.takeWhile (Text.Numeral.isDigit 10) = [] ∧ rest.dropWhile (Text.Numeral.isDigit 10) = rest := by
    cases rest with
    | nil => exact ⟨rfl, rfl⟩
    | cons c rest =>
      have hc : Text.Numeral.isDigit 10 c = false := by
        rcases hends c rfl with rfl | rfl | rfl <;> decide
      simp [hc]
  rw [digits, List.takeWhile_append_of_pos hdigits, List.dropWhile_append_of_pos hdigits, hrest.1, hrest.2,
    List.append_nil]

theorem readExponent_of_ends {rest : List Char} (hends : Ends rest) (negative : Bool) (whole : List Char) :
    readExponent negative whole [] rest = ⟨wholeNumber negative whole, some rest⟩ := by
  cases rest with
  | nil => rfl
  | cons c rest => rcases hends c rfl with rfl | rfl | rfl <;> rfl

/-- Written digits begin with a digit, which is zero only if it is the only one. -/
theorem write_eq_cons (n : Nat) :
    ∃ d ds, Text.Numeral.write 10 n = d :: ds ∧ Text.Numeral.isDigit 10 d = true ∧ (d = '0' → ds = []) := by
  cases hwrite : Text.Numeral.write 10 n with
  | nil => exact absurd hwrite (Text.Numeral.write_ne_nil 10 n)
  | cons d ds =>
    refine ⟨d, ds, rfl, ?_, fun hzero => ?_⟩
    · exact Text.Numeral.isDigit_of_mem_write (by decide) (by decide) d (by rw [hwrite]; exact List.mem_cons_self)
    · by_cases hn : n = 0
      · rw [hn, Text.Numeral.write_of_lt (by decide)] at hwrite
        exact (List.cons.inj hwrite).2.symm
      · have hhead : (Text.Numeral.write 10 n).head? ≠ some '0' :=
          Text.Numeral.head?_write (by decide) (by decide) hn
        rw [hwrite, hzero] at hhead
        exact absurd rfl hhead

/-- Digits that were written are read to their end: no second digit comes behind a zero, and no point. -/
theorem readDigits_write (negative : Bool) {rest : List Char} (hends : Ends rest) (n : Nat) :
    readDigits negative (Text.Numeral.write 10 n ++ rest) =
      ⟨wholeNumber negative (Text.Numeral.write 10 n), some rest⟩ := by
  obtain ⟨d, ds, hwrite, -, hzero⟩ := write_eq_cons n
  have hdigits := digits_write hends n
  rw [hwrite] at hdigits ⊢
  simp only [readDigits, hdigits]
  split
  next h => cases h
  next h =>
    obtain ⟨hd, hds⟩ := List.cons.inj h
    rw [hzero hd] at hds
    cases hds
  next => rcases hends '.' rfl with h | h | h <;> exact absurd h (by decide)
  next => exact readExponent_of_ends hends negative (d :: ds)

/-- Digits are no sign. -/
theorem readNumber_digits {rest : List Char} (n : Nat) :
    readNumber (Text.Numeral.write 10 n ++ rest) = readDigits false (Text.Numeral.write 10 n ++ rest) := by
  obtain ⟨d, ds, hwrite, hdigit, -⟩ := write_eq_cons n
  rw [readNumber]
  intro r h
  rw [hwrite] at h
  obtain ⟨rfl, -⟩ := List.cons.inj h
  exact absurd hdigit (by decide)

/-- A whole number of at most 64 bits is read back. -/
theorem readNumber_write {n : Int} (hlow : -0x8000_0000_0000_0000 ≤ n) (hhigh : n < 0x1_0000_0000_0000_0000)
    {rest : List Char} (hends : Ends rest) : readNumber (writeNumber n ++ rest) = ⟨.integer n, some rest⟩ := by
  have hvalue : Text.Numeral.value 10 (Text.Numeral.write 10 n.natAbs) = n.natAbs :=
    Text.Numeral.value_write (by decide) (by decide) _
  rw [writeNumber]
  split
  next hneg =>
    rw [List.cons_append, readNumber, readDigits_write true hends, wholeNumber, hvalue, if_neg (by omega), if_pos rfl,
      if_neg (by omega), show -((n.natAbs : Nat) : Int) = n by omega]
  next hneg =>
    rw [readNumber_digits, readDigits_write false hends, wholeNumber, hvalue, if_neg (by omega), if_neg (by decide),
      show ((n.natAbs : Nat) : Int) = n by omega]

/-! ### Values -/

/-- The text begins where a value may begin: at no blank and at no closing bracket. -/
def Begins (text : List Char) : Prop := ∃ c cs, text = c :: cs ∧ isBlank c = false ∧ c ≠ ']' ∧ c ≠ '\x7d'

theorem Begins.skipBlanks {text : List Char} (h : Begins text) : Json.skipBlanks text = text := by
  obtain ⟨c, cs, rfl, hblank, -, -⟩ := h
  rw [Json.skipBlanks, List.dropWhile_cons_of_neg (by simp [hblank])]

theorem Begins.append {text : List Char} (h : Begins text) (rest : List Char) : Begins (text ++ rest) := by
  obtain ⟨c, cs, rfl, hc⟩ := h
  exact ⟨c, cs ++ rest, rfl, hc⟩

theorem Begins.length_pos {text : List Char} (h : Begins text) : 0 < text.length := by
  obtain ⟨c, cs, rfl, -⟩ := h
  exact Nat.succ_pos _

/-- A written number begins with its sign or a digit. -/
theorem writeNumber_eq_cons (n : Int) :
    ∃ c cs, writeNumber n = c :: cs ∧ (c = '-' ∨ Text.Numeral.isDigit 10 c = true) := by
  obtain ⟨d, ds, hwrite, hdigit, -⟩ := write_eq_cons n.natAbs
  rw [writeNumber]
  split
  next => exact ⟨'-', _, rfl, .inl rfl⟩
  next => exact ⟨d, ds, hwrite, .inr hdigit⟩

/-- A character that begins a number, a text, a word, a list or a table. -/
theorem writeValue_begins {v : Value} (hv : v.Writable) : Begins (writeValue v) := by
  cases hv with
  | null => exact ⟨'n', _, rfl, by decide, by decide, by decide⟩
  | boolean b =>
    cases b
    case false => exact ⟨'f', _, rfl, by decide, by decide, by decide⟩
    case true => exact ⟨'t', _, rfl, by decide, by decide, by decide⟩
  | @integer n =>
    obtain ⟨c, cs, hwrite, hc⟩ := writeNumber_eq_cons n
    refine ⟨c, cs, by rw [writeValue, hwrite], ?_⟩
    rcases hc with rfl | hc
    · decide
    · refine ⟨Bool.eq_false_iff.2 fun h => ?_, ?_, ?_⟩
      · simp only [isBlank, Bool.or_eq_true, beq_iff_eq] at h
        rcases h with ((rfl | rfl) | rfl) | rfl <;> exact absurd hc (by decide)
      all_goals
        rintro rfl
        exact absurd hc (by decide)
  | ofString s => exact ⟨'"', _, rfl, by decide, by decide, by decide⟩
  | list _ => exact ⟨'[', _, by rw [writeValue]; rfl, by decide, by decide, by decide⟩
  | ofEntries _ => exact ⟨'\x7b', _, by rw [Value.ofEntries, writeValue]; rfl, by decide, by decide, by decide⟩

/-- The value is read back wherever it stands, with enough fuel. -/
def IsReadBack (v : Value) : Prop :=
  ∀ {fuel : Nat} {rest : List Char}, 2 * (writeValue v).length ≤ fuel → Ends rest →
    readValue fuel (writeValue v ++ rest) = ⟨v, some rest⟩

theorem readValue_word {fuel : Nat} (hfuel : 0 < fuel) (rest : List Char) :
    readValue fuel ("null".toList ++ rest) = ⟨.null, some rest⟩ ∧
      readValue fuel ("true".toList ++ rest) = ⟨.boolean true, some rest⟩ ∧
      readValue fuel ("false".toList ++ rest) = ⟨.boolean false, some rest⟩ := by
  obtain ⟨fuel, rfl⟩ := Nat.exists_eq_succ_of_ne_zero (Nat.ne_of_gt hfuel)
  exact ⟨rfl, rfl, rfl⟩

theorem readValue_text {fuel : Nat} (hfuel : 0 < fuel) (s : String) (rest : List Char) :
    readValue fuel (writeText s ++ rest) = ⟨.ofString s, some rest⟩ := by
  obtain ⟨fuel, rfl⟩ := Nat.exists_eq_succ_of_ne_zero (Nat.ne_of_gt hfuel)
  have htext : writeText s ++ rest = '"' :: (s.toList.flatMap escapeChar ++ '"' :: rest) := by
    simp [writeText]
  rw [htext, readValue, Begins.skipBlanks ⟨'"', _, rfl, by decide, by decide, by decide⟩]
  exact readText_writeText s rest

theorem readValue_number {fuel : Nat} (hfuel : 0 < fuel) {n : Int} (hlow : -0x8000_0000_0000_0000 ≤ n)
    (hhigh : n < 0x1_0000_0000_0000_0000) {rest : List Char} (hends : Ends rest) :
    readValue fuel (writeNumber n ++ rest) = ⟨.integer n, some rest⟩ := by
  obtain ⟨fuel, rfl⟩ := Nat.exists_eq_succ_of_ne_zero (Nat.ne_of_gt hfuel)
  have hread := readNumber_write hlow hhigh hends
  have hbegins := writeValue_begins (.integer hlow hhigh)
  rw [writeValue] at hbegins
  obtain ⟨c, cs, hwrite, hc⟩ := writeNumber_eq_cons n
  rw [readValue, (hbegins.append rest).skipBlanks]
  rw [hwrite, List.cons_append] at hread ⊢
  -- no sign and no digit begins a value of another kind
  split
  case h_1 h => cases h
  case h_8 h =>
    obtain ⟨rfl, rfl⟩ := List.cons.inj h
    rw [if_pos hc, hread]
  all_goals
    next h =>
      obtain ⟨rfl, -⟩ := List.cons.inj h
      exact absurd hc (by decide)

/-! ### Lists and tables -/

theorem Series.continue_close {α : Type} {close : Char} (hblank : isBlank close = false) (more : List Char → Series α)
    (element : α) (rest : List Char) :
    Series.continue close more element (some (close :: rest)) = ⟨[element], none, some rest⟩ := by
  rw [Series.continue, skipBlanks, List.dropWhile_cons_of_neg (by simp [hblank])]
  exact if_pos rfl

theorem Series.continue_comma {α : Type} {close : Char} (hclose : ',' ≠ close) (more : List Char → Series α)
    (element : α) (rest : List Char) :
    Series.continue close more element (some (',' :: rest)) =
      { more rest with elements := element :: (more rest).elements } := by
  rw [Series.continue, skipBlanks, List.dropWhile_cons_of_neg (by decide)]
  simp only [if_neg hclose, if_true]

theorem writeItems_begins {v : Value} (hv : v.Writable) (items : List Value) : Begins (writeItems (v :: items)) := by
  cases items with
  | nil => simpa [writeItems] using writeValue_begins hv
  | cons w items =>
    rw [writeItems]
    · exact (writeValue_begins hv).append _
    · exact List.cons_ne_nil _ _

theorem readItems_write {v : Value} {items : List Value} (hback : ∀ w ∈ v :: items, IsReadBack w) {fuel : Nat}
    (hfuel : 2 * (writeItems (v :: items)).length + 1 ≤ fuel) (rest : List Char) :
    readItems fuel (writeItems (v :: items) ++ ']' :: rest) = ⟨v :: items, none, some rest⟩ := by
  induction items generalizing v fuel with
  | nil =>
    obtain ⟨fuel, rfl⟩ := Nat.exists_eq_succ_of_ne_zero (Nat.ne_of_gt (Nat.zero_lt_of_lt hfuel))
    have hv := hback v List.mem_cons_self (show 2 * (writeValue v).length ≤ fuel by simpa [writeItems] using hfuel)
      (ends_bracket rest)
    rw [writeItems, readItems, hv]
    exact Series.continue_close (by decide) _ _ _
  | cons w items ih =>
    obtain ⟨fuel, rfl⟩ := Nat.exists_eq_succ_of_ne_zero (Nat.ne_of_gt (Nat.zero_lt_of_lt hfuel))
    have hwrite : writeItems (v :: w :: items) = writeValue v ++ ',' :: writeItems (w :: items) := by
      rw [writeItems]
      exact List.cons_ne_nil _ _
    rw [hwrite, List.length_append, List.length_cons] at hfuel
    have hv := hback v List.mem_cons_self (show 2 * (writeValue v).length ≤ fuel by omega)
      (ends_comma (writeItems (w :: items) ++ ']' :: rest))
    have hitems := ih (fun x hx => hback x (List.mem_cons_of_mem _ hx))
      (show 2 * (writeItems (w :: items)).length + 1 ≤ fuel by omega)
    rw [hwrite, List.append_assoc, List.cons_append, readItems, hv]
    simp only [Series.continue_comma (show ',' ≠ ']' by decide), hitems]

/-- A list is read back if its items are. -/
theorem isReadBack_list {items : List Value} (hitems : ∀ item ∈ items, item.Writable)
    (hback : ∀ item ∈ items, IsReadBack item) : IsReadBack (.list items none) := by
  intro fuel rest hfuel _
  rw [writeValue, List.length_append, List.length_cons, List.length_singleton] at hfuel
  obtain ⟨fuel, rfl⟩ := Nat.exists_eq_succ_of_ne_zero (Nat.ne_of_gt (show 0 < fuel by omega))
  have htext : writeValue (.list items none) ++ rest = '[' :: (writeItems items ++ ']' :: rest) := by
    simp [writeValue]
  rw [htext, readValue, Begins.skipBlanks ⟨'[', _, rfl, by decide, by decide, by decide⟩]
  cases items with
  | nil => rfl
  | cons v items =>
    have hbegins := (writeItems_begins (hitems v List.mem_cons_self) items).append (']' :: rest)
    simp only [hbegins.skipBlanks]
    obtain ⟨c, cs, hcons, -, hbracket, -⟩ := hbegins
    have hread := readItems_write hback (show 2 * (writeItems (v :: items)).length + 1 ≤ fuel by omega) rest
    rw [hcons] at hread ⊢
    split
    next h => exact absurd (List.cons.inj h).1 hbracket
    next => rw [hread]

/-- An entry with a text as its key. -/
def entryOf (entry : String × Value) : Value × Value := (.ofString entry.1, entry.2)

theorem readKey_writeText (other : List Char → Piece) (s : String) (rest : List Char) :
    readKey other (writeText s ++ rest) = ⟨.ofString s, some rest⟩ := by
  have htext : writeText s ++ rest = '"' :: (s.toList.flatMap escapeChar ++ '"' :: rest) := by
    simp [writeText]
  rw [htext, readKey, Begins.skipBlanks ⟨'"', _, rfl, by decide, by decide, by decide⟩]
  exact readText_writeText s rest

theorem writeEntries_cons (entry next : Value × Value) (entries : List (Value × Value)) :
    writeEntries (entry :: next :: entries) = writeEntry entry ++ ',' :: writeEntries (next :: entries) := by
  rw [writeEntries]
  exact List.cons_ne_nil _ _

/-- An entry is read, and then what follows it. -/
theorem readEntries_entry {entry : String × Value} (hback : IsReadBack entry.2) {fuel : Nat}
    (hfuel : 2 * (writeEntry (entryOf entry)).length ≤ fuel) {rest : List Char} (hends : Ends rest) :
    readEntries (fuel + 1) (writeEntry (entryOf entry) ++ rest) =
      Series.continue '\x7d' (readEntries fuel) (entryOf entry) (some rest) := by
  have htext : writeEntry (entryOf entry) ++ rest = writeText entry.1 ++ ':' :: (writeValue entry.2 ++ rest) := by
    simp [writeEntry, entryOf, Value.ofString, writeValue]
  have hlength := congrArg List.length htext
  simp only [List.length_append, List.length_cons] at hlength
  have hcolon : afterColon (':' :: (writeValue entry.2 ++ rest)) = .ok (writeValue entry.2 ++ rest) := rfl
  simp only [htext, readEntries, readKey_writeText, Option.map_some, hcolon, hback (show _ ≤ fuel by omega) hends]
  rfl

theorem readEntries_write {entry : String × Value} {entries : List (String × Value)}
    (hback : ∀ e ∈ entry :: entries, IsReadBack e.2) {fuel : Nat}
    (hfuel : 2 * (writeEntries ((entry :: entries).map entryOf)).length + 1 ≤ fuel) (rest : List Char) :
    readEntries fuel (writeEntries ((entry :: entries).map entryOf) ++ '\x7d' :: rest) =
      ⟨(entry :: entries).map entryOf, none, some rest⟩ := by
  induction entries generalizing entry fuel with
  | nil =>
    obtain ⟨fuel, rfl⟩ := Nat.exists_eq_succ_of_ne_zero (Nat.ne_of_gt (Nat.zero_lt_of_lt hfuel))
    simp only [List.map_cons, List.map_nil, writeEntries] at hfuel ⊢
    rw [readEntries_entry (hback entry List.mem_cons_self) (by omega) (ends_brace rest)]
    exact Series.continue_close (by decide) _ _ _
  | cons next entries ih =>
    obtain ⟨fuel, rfl⟩ := Nat.exists_eq_succ_of_ne_zero (Nat.ne_of_gt (Nat.zero_lt_of_lt hfuel))
    rw [List.map_cons, List.map_cons, writeEntries_cons] at hfuel ⊢
    rw [List.length_append, List.length_cons] at hfuel
    have hentries := ih (fun e he => hback e (List.mem_cons_of_mem _ he))
      (show 2 * (writeEntries ((next :: entries).map entryOf)).length + 1 ≤ fuel by rw [List.map_cons]; omega)
    rw [List.map_cons] at hentries
    rw [List.append_assoc, List.cons_append,
      readEntries_entry (hback entry List.mem_cons_self) (by omega) (ends_comma _)]
    simp only [Series.continue_comma (show ',' ≠ '\x7d' by decide), hentries]

theorem writeEntries_begins (entry : String × Value) (entries : List (Value × Value)) :
    Begins (writeEntries (entryOf entry :: entries)) := by
  have hentry : Begins (writeEntry (entryOf entry)) := by
    rw [entryOf, writeEntry]
    exact (writeValue_begins (.ofString entry.1)).append _
  cases entries with
  | nil => simpa [writeEntries] using hentry
  | cons next entries =>
    rw [writeEntries_cons]
    exact hentry.append _

/-- A table is read back if its values are. -/
theorem isReadBack_ofEntries {entries : List (String × Value)} (hback : ∀ entry ∈ entries, IsReadBack entry.2) :
    IsReadBack (.ofEntries entries) := by
  intro fuel rest hfuel _
  have hvalue : Value.ofEntries entries = .table (entries.map entryOf) none := rfl
  rw [hvalue] at hfuel ⊢
  rw [writeValue, List.length_append, List.length_cons, List.length_singleton] at hfuel
  obtain ⟨fuel, rfl⟩ := Nat.exists_eq_succ_of_ne_zero (Nat.ne_of_gt (show 0 < fuel by omega))
  have htext : writeValue (.table (entries.map entryOf) none) ++ rest =
      '\x7b' :: (writeEntries (entries.map entryOf) ++ '\x7d' :: rest) := by
    simp [writeValue]
  rw [htext, readValue, Begins.skipBlanks ⟨'\x7b', _, rfl, by decide, by decide, by decide⟩]
  cases entries with
  | nil => rfl
  | cons entry entries =>
    have hbegins := (writeEntries_begins entry (entries.map entryOf)).append ('\x7d' :: rest)
    have hread := readEntries_write hback
      (show 2 * (writeEntries ((entry :: entries).map entryOf)).length + 1 ≤ fuel by omega) rest
    rw [List.map_cons] at hread ⊢
    simp only [hbegins.skipBlanks]
    obtain ⟨c, cs, hcons, -, -, hbrace⟩ := hbegins
    rw [hcons] at hread ⊢
    split
    next h => exact absurd (List.cons.inj h).1 hbrace
    next => rw [hread]

/-! ### Documents -/

/-- A value is read back wherever it stands. -/
theorem readValue_write {v : Value} (hv : v.Writable) : IsReadBack v := by
  have hpos {v : Value} (hv : v.Writable) {fuel : Nat} (hfuel : 2 * (writeValue v).length ≤ fuel) : 0 < fuel := by
    have := (writeValue_begins hv).length_pos
    omega
  induction hv with
  | null => exact fun hfuel _ => (readValue_word (hpos .null hfuel) _).1
  | boolean b =>
    intro fuel rest hfuel _
    have hword := readValue_word (hpos (.boolean b) hfuel) rest
    cases b
    case false => exact hword.2.2
    case true => exact hword.2.1
  | integer hlow hhigh => exact fun hfuel hends => readValue_number (hpos (.integer hlow hhigh) hfuel) hlow hhigh hends
  | ofString s => exact fun hfuel _ => readValue_text (hpos (.ofString s) hfuel) s _
  | list hitems ih => exact isReadBack_list hitems ih
  | ofEntries _ ih => exact isReadBack_ofEntries ih

/-- A document holds the value that it was written from, and nothing else. -/
theorem document_write {v : Value} (hv : v.Writable) : document (write v) = ⟨v, some []⟩ := by
  have hread := readValue_write hv (Nat.le_add_right (2 * (writeValue v).length) 2) ends_nil
  rw [List.append_nil] at hread
  rw [document, write, String.toList_ofList, String.length_ofList, hread]

/-- What a reader makes of a value is what it makes of the written value. -/
theorem read_writable {α : Type} (reader : Reader α) {v : Value} (hv : v.Writable) :
    read reader (write v) = reader v := by
  rw [read, document_write hv]
  cases h : reader v <;> rfl

end Json

end RemoteDesktop.Document
