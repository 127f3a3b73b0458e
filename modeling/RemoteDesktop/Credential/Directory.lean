import RemoteDesktop.Credential.Record

/-!
# The credential directory

Records live in a directory of files, each under a name of its own. A `Credential` is the handle of one
record: freeing or dropping it overwrites the file and removes it, once, and a record that somebody else
removed before counts as removed.
-/

namespace RemoteDesktop

/-- The files of a directory: their paths and contents, each path at most once. -/
structure Directory where
  files : List (String × ByteArray) := []
  deriving Inhabited

/-- The handle of a record. -/
structure Credential where
  username : String
  hash : NtHash
  path : String
  /-- The record has been removed through this handle. -/
  removed : Bool := false
  deriving DecidableEq

namespace Directory

/-- The contents of a file. -/
def contents? (d : Directory) (path : String) : Option ByteArray := d.files.lookup path

/-- Create an empty file. -/
def create (path : String) (d : Directory) : Except FileError Directory :=
  if (d.contents? path).isSome then .error .alreadyExists
  else .ok { files := d.files ++ [(path, ByteArray.empty)] }

/-- Replace the contents of a file. -/
def overwrite (path : String) (contents : ByteArray) (d : Directory) : Directory :=
  { files := d.files.map fun file => if file.1 = path then (path, contents) else file }

/-- Remove a file, if it is there. -/
def unlink (path : String) (d : Directory) : Directory :=
  { files := d.files.filter fun file => file.1 ≠ path }

/-- Overwrite the record of a credential with zeros and remove it. -/
def remove (c : Credential) (d : Directory) : Credential × Directory :=
  if c.removed then (c, d)
  else
    let scrubbed :=
      match d.contents? c.path with
      | some contents => d.overwrite c.path (Bytes.zeros contents.size)
      | none => d
    ({ c with removed := true }, scrubbed.unlink c.path)

/-- Write a record under a new path. A `writeFailure` is what the file system answers to the write, if
it fails; the file is then removed again. -/
def store (path : String) (writeFailure : Option FileError) (username : String) (hash : NtHash)
    (d : Directory) : Except CredentialError Credential × Directory :=
  match d.create path with
  | .error cause => (.error (.io path cause), d)
  | .ok created =>
    let credential : Credential := { username, hash, path }
    match writeFailure with
    | some cause => (.error (.io path cause), (created.remove credential).2)
    | none =>
      (.ok credential, created.overwrite path (Record.file username hash))

/-- Issue a credential for a user and a hash. -/
def issue (path : String) (writeFailure : Option FileError) (username : String) (hash : NtHash)
    (d : Directory) : Except CredentialError Credential × Directory :=
  match Record.checkUsername username with
  | .error e => (.error e, d)
  | .ok () => d.store path writeFailure username hash

/-- Issue a credential for a user and a password. -/
def issuePassword (path : String) (writeFailure : Option FileError) (username password : String)
    (d : Directory) : Except CredentialError Credential × Directory :=
  d.issue path writeFailure username (NtHash.ofPassword password)

/-- Issue a credential for a user and a hash in hexadecimal. -/
def issueHex (path : String) (writeFailure : Option FileError) (username hash : String)
    (d : Directory) : Except CredentialError Credential × Directory :=
  match Record.checkUsername username with
  | .error e => (.error e, d)
  | .ok () =>
    match NtHash.ofHex? hash.toList with
    | none => (.error .invalidHash, d)
    | some hash => d.store path writeFailure username hash

/-- The hash that the record at `path` holds for a user. -/
def read (path username : String) (d : Directory) : Except CredentialError NtHash :=
  match d.contents? path with
  | none => .error (.io path .notFound)
  | some contents => Record.read path contents username

end Directory

end RemoteDesktop
