import RemoteDesktop.Credential.Provisioner

/-!
# Credentials that are alive

Any number of credentials of one directory may be alive at a time. They are freed and dropped in any order, by
whoever has them, and somebody else may delete a record meanwhile. A credential that is freed is dropped in the
end, like any other; its record has been removed then, and the drop leaves the directory alone.
-/

namespace RemoteDesktop

/-- A directory, and the credentials that are alive. -/
structure Custody where
  directory : Directory
  /-- In the order in which they were issued. -/
  alive : List Credential := []
  /-- The paths of records that somebody else has deleted. Nothing that is done looks at them. -/
  lost : List String := []

namespace Custody

/-- Something that is done to the credentials of a directory. Those that are alive are named by their place in the
row. -/
inductive Act where
  | issue (path : String) (writeFailure : Option FileError) (username : String) (secret : Secret)
  | free (index : Nat)
  | drop (index : Nat)
  /-- Somebody else deletes the record of a credential. -/
  | delete (index : Nat)

/-- What an act makes of the credentials and their directory. -/
def act (c : Custody) : Act → Custody
  | .issue path writeFailure username secret =>
    match c.directory.issueSecret path writeFailure username secret with
    | (.ok credential, directory) => { c with directory, alive := c.alive ++ [credential] }
    | (.error _, directory) => { c with directory }
  | .free index =>
    match c.alive[index]? with
    | none => c
    | some credential =>
      let (freed, directory) := c.directory.remove credential
      { c with directory := (directory.remove freed).2, alive := c.alive.eraseIdx index }
  | .drop index =>
    match c.alive[index]? with
    | none => c
    | some credential =>
      { c with directory := (c.directory.remove credential).2, alive := c.alive.eraseIdx index }
  | .delete index =>
    match c.alive[index]? with
    | none => c
    | some credential =>
      { c with directory := c.directory.unlink credential.path, lost := credential.path :: c.lost }

/-- What some acts make of the credentials and their directory. -/
def run (c : Custody) (acts : List Act) : Custody := acts.foldl act c

/-- The path for the record of a new credential. -/
def Act.path? : Act → Option String
  | issue path _ _ _ => some path
  | free _ | drop _ | delete _ => none

/-- The paths for the records of new credentials. -/
def paths (acts : List Act) : List String := acts.filterMap Act.path?

/-- No path is used twice, and none that a file has had from the start. -/
def Fresh (start : Directory) (acts : List Act) : Prop :=
  (paths acts).Nodup ∧ ∀ path ∈ paths acts, path ∉ start.files.map (·.1)

/-- The record of a credential. -/
def record (credential : Credential) : String × ByteArray :=
  (credential.path, Record.file credential.username credential.hash)

/-- The records of all credentials that are alive, except those that somebody else has deleted. -/
def records (c : Custody) : List (String × ByteArray) := (c.alive.filter (·.path ∉ c.lost)).map record

end Custody

end RemoteDesktop
