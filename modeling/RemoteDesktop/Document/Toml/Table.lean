import RemoteDesktop.Document.Value

/-!
# Tables in TOML

A table comes into being in one of three ways: by a header of its own, on the way to the table of a
longer header, or by a key with several parts. Who came first decides what may be added later; nothing
is ever defined twice.
-/

namespace RemoteDesktop.Document.Toml

/-- How a table came into being. -/
inductive Origin where
  /-- By a header of its own. -/
  | header
  /-- On the way to another table. -/
  | path
  /-- By a key with several parts. -/
  | key
  deriving DecidableEq, Repr

/-- What a key of a table under construction stands for. -/
inductive Node where
  | value (v : Value)
  | table (origin : Origin) (entries : List (String × Node))
  /-- A list of tables, each with a header of its own. -/
  | tables (elements : List (List (String × Node)))

/-- The entries of a table, in the order of their first mention. -/
abbrev Entries := List (String × Node)

/-- A key with its value: the parts of the key before the last, the last, and the value. -/
abbrev Assignment := (List String × String) × Value

/-- What the text defines, piece by piece. -/
inductive Header where
  | table (path : List String) (name : String)
  /-- One more table of a list. -/
  | element (path : List String) (name : String)
  deriving DecidableEq, Repr

/-- A header and the assignments below it. -/
structure Section where
  header : Header
  assignments : List Assignment

namespace Entries

/-- The entries with a new meaning for a name, in the place of its old one if it had one. -/
def put (entries : Entries) (name : String) (node : Node) : Entries :=
  match entries with
  | [] => [(name, node)]
  | (key, old) :: entries => if key = name then (key, node) :: entries else (key, old) :: put entries name node

/-- The entries of the table at a path, changed by `change`. Tables missing on the way come into being
as `origin` says; `enter` says which tables may be entered; of a list of tables the last is entered. -/
def modify (origin : Origin) (enter : Origin → Bool) (change : Origin → Entries → Option Entries)
    (here : Origin) (entries : Entries) : (path : List String) → Option Entries
  | [] => change here entries
  | name :: path =>
    match entries.lookup name with
    | none => do
      let inner ← modify origin enter change origin [] path
      some (put entries name (.table origin inner))
    | some (.table made inner) =>
      if enter made then do
        let inner ← modify origin enter change made inner path
        some (put entries name (.table made inner))
      else none
    | some (.tables elements) =>
      match elements.reverse with
      | [] => none
      | last :: before => do
        let last ← modify origin enter change .header last path
        some (put entries name (.tables (last :: before).reverse))
    | some (.value _) => none

/-- The entries with one more assignment. A key with several parts enters only tables without a header
of their own, and ends in a table made by such a key. -/
def assign (entries : Entries) : Assignment → Option Entries
  | ((path, name), value) =>
    let change (here : Origin) (entries : Entries) : Option Entries :=
      if (here == .key) == path.isEmpty ∨ (entries.lookup name).isSome then none
      else some (put entries name (.value value))
    modify .key (· != .header) change .header entries path

/-- The entries with several more assignments. -/
def assignAll (entries : Entries) (assignments : List Assignment) : Option Entries :=
  assignments.foldlM assign entries

/-- The entries with what a section defines. -/
def define (entries : Entries) (s : Section) : Option Entries :=
  let within (path : List String) (change : Entries → Option Entries) : Option Entries :=
    modify .path (fun _ => true) (fun _ => change) .header entries path
  match s.header with
  | .table path name => within path fun entries => do
    let old ← match entries.lookup name with
      | none => some []
      | some (.table .path inner) => some inner
      | some _ => none
    some (put entries name (.table .header (← assignAll old s.assignments)))
  | .element path name => within path fun entries => do
    let old ← match entries.lookup name with
      | none => some []
      | some (.tables elements) => some elements
      | some _ => none
    some (put entries name (.tables (old ++ [← assignAll [] s.assignments])))

end Entries

/-! ### Finished tables -/

mutual

/-- The value that a finished node stands for. -/
def Node.toValue : Node → Value
  | .value v => v
  | .table _ entries => .table (entriesToValues entries) none
  | .tables elements => .list (tablesToValues elements) none

def entriesToValues : List (String × Node) → List (Value × Value)
  | [] => []
  | entry :: entries => entryToValues entry :: entriesToValues entries

def entryToValues : String × Node → Value × Value
  | (name, node) => (.ofString name, node.toValue)

def tablesToValues : List (List (String × Node)) → List Value
  | [] => []
  | entries :: elements => .table (entriesToValues entries) none :: tablesToValues elements

end

/-- The value of a finished table. -/
def Entries.toValue (entries : Entries) : Value := .table (entriesToValues entries) none

/-- The table that assignments between braces make. -/
def inlineTable? (assignments : List Assignment) : Option Value :=
  (Entries.assignAll [] assignments).map Entries.toValue

end RemoteDesktop.Document.Toml
