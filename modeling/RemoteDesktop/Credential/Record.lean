import RemoteDesktop.Digest.Md4
import RemoteDesktop.FileError
import RemoteDesktop.Text.Blank
import RemoteDesktop.Text.Split
import RemoteDesktop.Text.Utf16

/-!
# Credential records

A password is kept as its hash. A record names one user and that user's hash in one line of text; a
reader looks only at the first bytes of a file, takes the first line about the user asked for, and
compares names without regard to the case of ASCII letters.
-/

namespace RemoteDesktop

/-- The hash of a password. -/
structure NtHash where
  bytes : List UInt8
  length_bytes : bytes.length = 16
  deriving DecidableEq

namespace NtHash

/-- The hash of a password: the digest of its UTF-16 code units, low byte first. -/
def ofPassword (password : String) : NtHash :=
  ⟨Digest.Md4.digest ((Text.Utf16.units password).flatMap fun u => Bytes.leBytes 2 u.toNat),
    Digest.Md4.length_digest _⟩

/-- The hash written by 32 hexadecimal digits of either case, with blanks around them. -/
def ofHex? (text : List Char) : Option NtHash :=
  match Bytes.ofHex? (Text.trim text) with
  | none => none
  | some bytes => if h : bytes.length = 16 then some ⟨bytes, h⟩ else none

/-- The hash in 32 capital hexadecimal digits. -/
def toHex (hash : NtHash) : List Char := hash.bytes.flatMap (Bytes.hexByte true)

/-- What a hash shows of itself. -/
def describe (_ : NtHash) : String := "NtHash(<redacted>)"

end NtHash

/-- Why a credential could not be issued or read. -/
inductive CredentialError where
  | emptyUsername
  /-- The username contains a character that separates the fields or lines of records. -/
  | invalidUsername
  | invalidHash
  /-- The file holds no readable record of the user. -/
  | malformedRecord (path : String)
  | io (path : String) (cause : FileError)
  deriving DecidableEq, Repr

/-- The wording of a credential error. -/
def CredentialError.message : CredentialError → String
  | emptyUsername => "username must not be empty"
  | invalidUsername => "username contains an invalid character (':' or line break)"
  | invalidHash => "NT hash must be 32 hex digits"
  | malformedRecord path => s!"malformed SAM record in {path}"
  | io path cause => s!"credential file I/O failed for {path}: {cause.message}"

namespace Record

/-- A character that no username contains. -/
def isSeparator (c : Char) : Bool := c == ':' || c == '\n' || c == '\r' || c == '\x00'

/-- The username can be written in a record. -/
def checkUsername (username : String) : Except CredentialError Unit :=
  if username.isEmpty then .error .emptyUsername
  else if username.toList.any isSeparator then .error .invalidUsername
  else .ok ()

/-- The record of a user. -/
def write (username : String) (hash : NtHash) : List Char :=
  username.toList ++ ":::".toList ++ hash.toHex ++ ":::\n".toList

/-- The contents of a file with the record of a user. -/
def file (username : String) (hash : NtHash) : ByteArray := (String.ofList (write username hash)).toUTF8

/-- The number of bytes of a file that are looked at. -/
def readLimit : Nat := 4096

/-- The user and the hash of a line, if it has the form of a record. -/
def fields? (line : List Char) : Option (List Char × List Char) :=
  match Text.splitAt ':' line with
  | user :: [] :: [] :: hash :: _ => some (user, hash)
  | _ => none

/-- What the first line about a user says of the hash. -/
def find? (username : List Char) : List (List Char) → Option NtHash
  | [] => none
  | line :: lines =>
    match fields? line with
    | none => find? username lines
    | some (user, hash) =>
      if Text.SameAscii user username then NtHash.ofHex? hash else find? username lines

/-- The hash that a file at `path` with the given contents holds for a user. -/
def read (path : String) (contents : ByteArray) (username : String) :
    Except CredentialError NtHash :=
  match String.fromUTF8? (contents.extract 0 readLimit) with
  | none => .error (.io path .notText)
  | some text =>
    match find? username.toList (Text.lines text.toList) with
    | some hash => .ok hash
    | none => .error (.malformedRecord path)

end Record

end RemoteDesktop
