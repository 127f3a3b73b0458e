import RemoteDesktop.FileError
import RemoteDesktop.Files.Path

/-!
# Directories and files

What there is in a file system, apart from contents: files, and directories with their rights. A path is
followed step by step, and every step leaves from a directory, so that nothing comes after a file, not
even an idle step. A directory can be made together with those on the way to it.
-/

namespace RemoteDesktop

/-- Something in a file system. -/
inductive Node where
  | file
  /-- A directory, with the rights to it as a number. -/
  | directory (rights : Nat)
  deriving DecidableEq, Repr

/-- Where something is: the names that lead there from the root. -/
abbrev Place := List String

/-- What there is, and the place of the reader. The root is a directory in every tree. -/
structure FileTree where
  nodes : List (Place × Node)
  here : Place := []

namespace FileTree

/-- The rights to a directory that is there from the start. -/
def commonRights : Nat := 0o755

/-- The most bytes in a name. -/
def maxName : Nat := 255

/-- The most bytes in a path. -/
def maxPath : Nat := 4095

/-- What is at a place. -/
def node? (t : FileTree) : Place → Option Node
  | [] => some (.directory commonRights)
  | place => t.nodes.lookup place

/-- The tree with something new at a place. -/
def insert (place : Place) (node : Node) (t : FileTree) : FileTree :=
  { t with nodes := t.nodes ++ [(place, node)] }

/-- The number of things in the directory at a place. -/
def count (t : FileTree) (place : Place) : Nat :=
  (t.nodes.filter fun entry => entry.1.dropLast = place).length

/-! ### Following paths -/

/-- One step from a place. The root is its own parent. -/
def step (t : FileTree) (place : Place) (name : String) : Except FileError Place :=
  match t.node? place with
  | none => .error .notFound
  | some .file => .error .notDirectory
  | some (.directory _) =>
    if Path.isIdle name then .ok place
    else if name = ".." then .ok place.dropLast
    else if maxName < name.utf8ByteSize then .error .nameTooLong
    else if (t.node? (place ++ [name])).isSome then .ok (place ++ [name])
    else .error .notFound

/-- Several steps from a place. -/
def walk (t : FileTree) (place : Place) (steps : List String) : Except FileError Place :=
  steps.foldlM t.step place

/-- The text can be a path. -/
def checkPath (path : String) : Except FileError Unit :=
  if path.toList.contains '\x00' then .error .notAPath
  else if path.isEmpty then .error .notFound
  else if maxPath < path.utf8ByteSize then .error .nameTooLong
  else .ok ()

/-- Where a path starts. -/
def start (t : FileTree) (path : String) : Place := if Path.isAbsolute path then [] else t.here

/-- The place to which a path leads. -/
def find (t : FileTree) (path : String) : Except FileError Place := do
  checkPath path
  t.walk (t.start path) (Path.steps path)

/-- There is something where the path leads. -/
def contains (t : FileTree) (path : String) : Bool := (t.find path).isOk

/-- The rights to the directory to which a path leads, if it leads to one. -/
def rights? (t : FileTree) (path : String) : Option Nat :=
  match (t.find path).toOption.bind t.node? with
  | some (.directory rights) => some rights
  | _ => none

/-! ### Making directories -/

/-- Make a directory. Slashes behind its name do not count. -/
def makeDirectory (rights : Nat) (path : String) (t : FileTree) : Except FileError FileTree := do
  checkPath path
  match (Path.steps path).reverse.dropWhile (·.isEmpty) with
  | [] => .error .alreadyExists
  | name :: before => do
    let place ← t.walk (t.start path) before.reverse
    match t.step place name with
    | .ok _ => .error .alreadyExists
    | .error .notFound => .ok (t.insert (place ++ [name]) (.directory rights))
    | .error e => .error e

/-- Make a directory, and `parents` first if something on the way to it is missing. A directory that
is there already will do. -/
def ensureDirectory (rights : Nat) (path : String) (parents : FileTree → Except FileError FileTree)
    (t : FileTree) : Except FileError FileTree :=
  let settle (t : FileTree) (e : FileError) : Except FileError FileTree :=
    if e = .alreadyExists ∧ (t.rights? path).isSome then .ok t else .error e
  match t.makeDirectory rights path with
  | .ok t => .ok t
  | .error .notFound => do
    let t ← parents t
    match t.makeDirectory rights path with
    | .ok t => .ok t
    | .error e => settle t e
  | .error e => settle t e

/-- Make the directory at the end of the given steps, and all on the way. The last step comes first. -/
def makeWay (rights : Nat) (absolute : Bool) : List String → FileTree → Except FileError FileTree
  | [] => .ok
  | move :: before =>
    ensureDirectory rights (Path.ofMoves absolute (move :: before).reverse)
      (makeWay rights absolute before)

/-- Make a directory, and all on the way to it. -/
def makeDirectories (rights : Nat) (path : String) (t : FileTree) : Except FileError FileTree :=
  t.ensureDirectory rights path
    (makeWay rights (Path.isAbsolute path) (Path.moves path).reverse.tail)

/-! ### The tree of a host -/

/-- A host as it is set up: the directories of the standard hierarchy, and a few files in them. -/
def host : FileTree :=
  let directories := ["bin", "boot", "dev", "etc", "home", "lib", "media", "mnt", "opt", "proc", "root",
    "run", "sbin", "srv", "sys", "tmp", "usr", "var"]
  { nodes := directories.map (fun name => ([name], .directory commonRights)) ++
      [(["dev", "null"], .file), (["dev", "zero"], .file), (["etc", "passwd"], .file),
        (["etc", "hosts"], .file), (["usr", "bin"], .directory commonRights),
        (["usr", "lib"], .directory commonRights), (["var", "log"], .directory commonRights)]
    here := ["root"] }

end FileTree

end RemoteDesktop
