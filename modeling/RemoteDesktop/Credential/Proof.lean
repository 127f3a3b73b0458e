import RemoteDesktop.Credential.Record
import RemoteDesktop.Digest.Sha256

/-!
# Login proofs

A viewer that knows a password shows so without sending it: it sends the digest, under the hash of the
password, of a number chosen by the other side followed by its own name.
-/

namespace RemoteDesktop.NtHash

/-- The proof that a user knows the password behind a hash. -/
def proof (hash : NtHash) (nonce : List UInt8) (username : String) : List UInt8 :=
  Digest.Sha256.keyed hash.bytes (nonce ++ username.toUTF8.toList)

/-- A proof is the right one. -/
def accepts (hash : NtHash) (nonce : List UInt8) (username : String) (given : List UInt8) : Bool :=
  given == hash.proof nonce username

end RemoteDesktop.NtHash
