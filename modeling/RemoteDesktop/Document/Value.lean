/-!
# Documents

The values that texts of settings and of session states hold. A text that goes wrong somewhere still
has a value up to that place, with the flaw in it: who reads the value in the order of the text meets
first either the flaw or a value of the wrong kind, and reports that one.
-/

namespace RemoteDesktop.Document

/-- How a text goes wrong. -/
inductive Flaw where
  /-- A character stands where it may not stand. -/
  | malformed
  /-- The text ends too soon. -/
  | cutShort
  deriving DecidableEq, Repr, Inhabited

/-- Why a text could not be read as what was asked for. -/
inductive ReadError where
  | malformed
  /-- The text is well formed up to here and holds something else. -/
  | unfit
  | cutShort
  deriving DecidableEq, Repr, Inhabited

/-- What is read, or why it cannot be. -/
abbrev Result := Except ReadError

/-- The error that a flaw causes. -/
def Flaw.error : Flaw → ReadError
  | malformed => .malformed
  | cutShort => .cutShort

/-- A value of a document. -/
inductive Value where
  | null
  | boolean (b : Bool)
  /-- A whole number, written as one and of at most 64 bits. -/
  | integer (n : Int)
  /-- Any other number, a date or a time; `inRange` says whether the number is not too large. -/
  | other (inRange : Bool)
  /-- A text, or `none` if the escapes in it do not spell one. -/
  | text (content : Option String)
  /-- A list, and the flaw found where its next separator or its end should be. -/
  | list (items : List Value) (stop : Option Flaw)
  /-- A table in the order of the text, and the flaw found where its next separator or its end should
  be. Keys are texts, or broken. -/
  | table (entries : List (Value × Value)) (stop : Option Flaw)
  /-- What is left of a value in which the text goes wrong: the flaw for who asks for a value of some
  kind, the flaw for who passes over it, and the error for who asks for the name of a choice. -/
  | broken (used skipped : Flaw) (named : ReadError)
  deriving Inhabited

namespace Value

/-- A text. -/
def ofString (s : String) : Value := text (some s)

/-- A number. -/
def ofNat (n : Nat) : Value := integer n

/-- A table without flaws. -/
def ofEntries (entries : List (String × Value)) : Value :=
  table (entries.map fun (key, value) => (ofString key, value)) none

/-- A value that may be absent. -/
def ofOption {α : Type} (write : α → Value) : Option α → Value
  | none => null
  | some a => write a

/-- A flaw at the end of a list or table is an error. -/
def endOf : Option Flaw → Result Unit
  | none => .ok ()
  | some flaw => .error flaw.error

/-! ### Passing over a value -/

mutual

/-- The first flaw of a value that nobody looks into. -/
def skip : Value → Result Unit
  | list items stop => do
    skipItems items
    endOf stop
  | table entries stop => do
    skipEntries entries
    endOf stop
  | broken _ skipped _ => .error skipped.error
  | _ => .ok ()

def skipItems : List Value → Result Unit
  | [] => .ok ()
  | value :: items => do
    value.skip
    skipItems items

def skipEntries : List (Value × Value) → Result Unit
  | [] => .ok ()
  | entry :: entries => do
    skipEntry entry
    skipEntries entries

def skipEntry : Value × Value → Result Unit
  | (key, value) => do
    key.skip
    value.skip

end

/-! ### Tables over tables -/

/-- The key is the given text. -/
def isKey (name : String) : Value → Bool
  | text (some s) => s == name
  | _ => false

/-- The value of a key. -/
def lookup (entries : List (Value × Value)) (name : String) : Option Value :=
  (entries.find? fun (key, _) => key.isKey name).map (·.2)

/-- The entries with a new value for a key, in the place of its old value if it had one. -/
def put (entries : List (Value × Value)) (name : String) (value : Value) : List (Value × Value) :=
  match entries with
  | [] => [(ofString name, value)]
  | (key, old) :: entries =>
    if key.isKey name then (key, value) :: entries else (key, old) :: put entries name value

mutual

/-- `base` with the values of `upper` in place of its own; tables are laid over tables. -/
def overlay (base : Value) : (upper : Value) → Value
  | table entries stop =>
    match base with
    | table old _ => table (overlayEntries old entries) stop
    | _ => table entries stop
  | upper => upper

def overlayEntries (old : List (Value × Value)) : List (Value × Value) → List (Value × Value)
  | [] => old
  | entry :: entries => overlayEntries (overlayEntry old entry) entries

def overlayEntry (old : List (Value × Value)) : Value × Value → List (Value × Value)
  | (text (some name), value) =>
    match lookup old name with
    | some before => put old name (before.overlay value)
    | none => put old name value
  | _ => old

end

end Value

end RemoteDesktop.Document
