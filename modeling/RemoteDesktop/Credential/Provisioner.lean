import RemoteDesktop.Credential.Directory
import RemoteDesktop.Files.Tree

/-!
# The provisioner

A `Provisioner` issues credentials in one directory, which it makes if there is none; only its owner has
rights to a directory so made. It gives every record a new path, and remembers every credential issued
by a name that its caller chooses, until the credential is dropped; freeing it or dropping it removes
its record. Records may also disappear behind the provisioner's back.
-/

namespace RemoteDesktop

/-- What a credential is made from. -/
inductive Secret where
  | password (password : String)
  | hash (hash : NtHash)
  /-- The hash in hexadecimal digits. -/
  | digits (digits : String)
  deriving DecidableEq

/-- Issue a credential for a user and a secret. -/
def Directory.issueSecret (path : String) (writeFailure : Option FileError) (username : String) (secret : Secret)
    (d : Directory) : Except CredentialError Credential × Directory :=
  match secret with
  | .password password => d.issuePassword path writeFailure username password
  | .hash hash => d.issue path writeFailure username hash
  | .digits digits => d.issueHex path writeFailure username digits

/-- Issues credentials in one directory. -/
structure Provisioner where
  /-- The path of the directory. -/
  base : String := ""
  directory : Directory := {}
  /-- The credentials issued, by name, the latest first. -/
  issued : List (String × Credential) := []
  /-- The number of paths given away. -/
  paths : Nat := 0
  deriving Inhabited

namespace Provisioner

/-- The rights to a directory made for records. -/
def ownerOnly : Nat := 0o700

/-- A provisioner for the directory at a path, and the directories that there are then. -/
def create (base : String) (t : FileTree) : Except CredentialError (Provisioner × FileTree) :=
  match t.makeDirectories ownerOnly base with
  | .ok t => .ok ({ base }, t)
  | .error cause => .error (.io base cause)

/-- The last credential issued under a name. -/
def credential? (p : Provisioner) (name : String) : Option Credential := p.issued.lookup name

/-- Issue a credential under a name. A credential that had the name before is dropped. -/
def issue (name username : String) (secret : Secret) (writeFailure : Option FileError)
    (p : Provisioner) : Except CredentialError Credential × Provisioner :=
  let path := Path.join p.base ("sam-" ++ toString p.paths)
  let (result, directory) := p.directory.issueSecret path writeFailure username secret
  let p := { p with directory, paths := p.paths + 1 }
  match result with
  | .error e => (.error e, p)
  | .ok credential =>
    let directory :=
      match p.credential? name with
      | some old => (p.directory.remove old).2
      | none => p.directory
    (.ok credential, { p with directory, issued := (name, credential) :: p.issued })

/-- Free or drop the credential of a name. -/
def release (name : String) (p : Provisioner) : Provisioner :=
  match p.credential? name with
  | none => p
  | some credential =>
    let (credential, directory) := p.directory.remove credential
    { p with directory, issued := (name, credential) :: p.issued }

/-- The record of a name disappears. -/
def lose (name : String) (p : Provisioner) : Provisioner :=
  match p.credential? name with
  | none => p
  | some credential => { p with directory := p.directory.unlink credential.path }

/-- The contents of the record of a name, if it is there. -/
def record? (p : Provisioner) (name : String) : Option ByteArray :=
  (p.credential? name).bind fun credential => p.directory.contents? credential.path

/-- The hash that the record of a name holds for a user. -/
def read (name username : String) (p : Provisioner) : Except CredentialError NtHash :=
  p.directory.read (((p.credential? name).map (·.path)).getD "") username

end Provisioner

end RemoteDesktop
