import RemoteDesktop.Document.Value

/-!
# Reading documents

Readers of single values, and of records: tables with named fields, which may also be written as the
list of their fields. A record meets the flaws and the wrong values in the order of the text, and
misses fields only at its end.
-/

namespace RemoteDesktop.Document

/-- What the formats of documents differ in. -/
structure Dialect where
  /-- A record written as a list may have further items after its fields. -/
  extraItems : Bool
  /-- The values that stand for "nothing more to say" behind the name of a choice. -/
  isUnit : Value → Bool
  /-- The error of a value that cannot name a choice. -/
  notAName : ReadError

/-- Reads a value. -/
abbrev Reader (α : Type) := Value → Result α

namespace Value

/-- Why a value of the wrong kind is refused. -/
def mismatch : Value → ReadError
  | broken used _ _ => used.error
  | text none => .malformed
  | other false => .malformed
  | _ => .unfit

/-- The text of a value. -/
def readText : Reader String
  | text (some s) => .ok s
  | value => .error value.mismatch

/-- The truth value of a value. -/
def readBoolean : Reader Bool
  | boolean b => .ok b
  | value => .error value.mismatch

/-- The natural number of a value, if it is below the limit. -/
def readNatural (limit : Nat) : Reader Nat
  | integer n => if 0 ≤ n ∧ n < limit then .ok n.toNat else .error .unfit
  | value => .error value.mismatch

/-- A number of 8 bits. -/
def readByte : Reader UInt8 := fun value =>
  UInt8.ofNat <$> value.readNatural (256)

/-- A number of 16 bits. -/
def readWord16 : Reader UInt16 := fun value =>
  UInt16.ofNat <$> value.readNatural (0x1_0000)

/-- A number of 32 bits. -/
def readWord32 : Reader UInt32 := fun value =>
  UInt32.ofNat <$> value.readNatural (0x1_0000_0000)

/-- A number of 64 bits. -/
def readWord64 : Reader UInt64 := fun value =>
  UInt64.ofNat <$> value.readNatural (0x1_0000_0000_0000_0000)

/-- A value that may be null. -/
def readOptional {α : Type} (read : Reader α) : Reader (Option α)
  | null => .ok none
  | value => some <$> read value

/-- The items of a list. -/
def readList {α : Type} (read : Reader α) : Reader (List α)
  | list items stop => do
    let values ← items.mapM read
    endOf stop
    .ok values
  | value => .error value.mismatch

/-- The two items of a list. -/
def readPair {α : Type} (read : Reader α) : Reader (α × α)
  | list (first :: second :: further) stop => do
    let first ← read first
    let second ← read second
    if further.isEmpty then endOf stop else .error .malformed
    .ok (first, second)
  | list items stop => do
    let _ ← items.mapM read
    endOf stop
    .error .unfit
  | value => .error value.mismatch

/-- The name that a value spells. -/
def readName (dialect : Dialect) : Reader String
  | text (some s) => .ok s
  | broken _ _ named => .error named
  | _ => .error dialect.notAName

/-- The choice that a value names: by its text alone, or by the only key of a table. -/
def readChoice {α : Type} (dialect : Dialect) (choice? : String → Option α) : Reader α
  | table [] stop => do
    endOf stop
    .error dialect.notAName
  | table ((key, value) :: further) stop => do
    match choice? (← key.readName dialect) with
    | none => .error .unfit
    | some choice =>
      if dialect.isUnit value then
        if further.isEmpty then endOf stop else .error .malformed
        .ok choice
      else .error value.mismatch
  | value => do
    match choice? (← value.readName dialect) with
    | none => .error .unfit
    | some choice => .ok choice

end Value

/-! ### Records -/

/-- A field of a record. -/
structure Field (α : Type) where
  name : String
  read : Reader α
  /-- What a table without the field means. -/
  absent : Option α
  /-- What a list that ends before the field means. -/
  absentFromList : Option α

/-- Reads a record: its fields in order with a check of each, and the record that their values make. -/
structure RecordReader (α : Type) where
  fields : List (String × Reader Unit)
  build : (fromList : Bool) → (find : String → Option Value) → Result α

namespace RecordReader

/-- A record without fields. -/
protected def pure {α : Type} (a : α) : RecordReader α := ⟨[], fun _ _ => .ok a⟩

/-- The fields of two records one after the other. -/
protected def seq {α β : Type} (f : RecordReader (α → β)) (a : Unit → RecordReader α) :
    RecordReader β :=
  ⟨f.fields ++ (a ()).fields, fun fromList find => do
    let f ← f.build fromList find
    let a ← (a ()).build fromList find
    .ok (f a)⟩

instance : Applicative RecordReader where
  pure := RecordReader.pure
  seq := RecordReader.seq

/-- A record of one field. -/
def ofField {α : Type} (field : Field α) : RecordReader α :=
  ⟨[(field.name, fun value => discard (field.read value))], fun fromList find =>
    match find field.name, if fromList then field.absentFromList else field.absent with
    | some value, _ => field.read value
    | none, some a => .ok a
    | none, none => .error .unfit⟩

/-- A field that must be there. -/
def required {α : Type} (name : String) (read : Reader α) : RecordReader α :=
  ofField ⟨name, read, none, none⟩

/-- A field with a value to fall back on. -/
def withDefault {α : Type} (name : String) (read : Reader α) (fallback : α) : RecordReader α :=
  ofField ⟨name, read, some fallback, some fallback⟩

/-- A field that may be null. A table may leave it out. -/
def nullable {α : Type} (name : String) (read : Reader α) : RecordReader (Option α) :=
  ofField ⟨name, Value.readOptional read, some none, none⟩

/-- The fields found in a table, most recent first. Keys that name no field are passed over. -/
def collect {α : Type} (reader : RecordReader α) (found : List (String × Value)) :
    List (Value × Value) → Result (List (String × Value))
  | [] => .ok found
  | (key, value) :: entries => do
    let name ← key.readText
    match reader.fields.lookup name with
    | none =>
      value.skip
      reader.collect found entries
    | some check =>
      if (found.lookup name).isSome then .error .unfit
      else
        check value
        reader.collect ((name, value) :: found) entries

/-- The fields found in a list. -/
def collectItems (dialect : Dialect) :
    (fields : List (String × Reader Unit)) → List Value → Result (List (String × Value))
  | _, [] => .ok []
  | [], _ :: _ => if dialect.extraItems then .ok [] else .error .malformed
  | (name, check) :: fields, value :: items => do
    check value
    let found ← collectItems dialect fields items
    .ok ((name, value) :: found)

/-- The record that a value holds. -/
def read {α : Type} (dialect : Dialect) (reader : RecordReader α) : Reader α
  | .table entries stop => do
    let found ← reader.collect [] entries
    Value.endOf stop
    reader.build false fun name => found.lookup name
  | .list items stop => do
    let found ← collectItems dialect reader.fields items
    Value.endOf stop
    reader.build true fun name => found.lookup name
  | value => .error value.mismatch

end RecordReader

end RemoteDesktop.Document
