import RemoteDesktop.Connection
import RemoteDesktop.Credential.Proof
import RemoteDesktop.Login.Error

/-!
# Login

A viewer says who it is, is given a random number, and answers with a proof over it that only somebody
who knows the password can make; the server then says whether the proof was accepted. Until then the
viewer may send short frames only. A user whose record cannot be found is refused in the same way as one
whose proof is wrong.
-/

namespace RemoteDesktop

namespace Login

/-- How a login ends. -/
inductive Outcome where
  | connected (connection : Connection)
  | failed (e : LoginError)
  /-- The viewer has not sent all of its messages. -/
  | waiting

/-- A login as far as it has come: its outcome, and what was sent to the viewer. -/
structure Progress where
  outcome : Outcome
  sent : List ServerMessage

/-- The length of the random number. -/
def nonceLength : Nat := 32

/-- The bytes in which the messages of a login are sent. -/
def Progress.bytes (p : Progress) : Except ConnectionError ByteArray :=
  match p.sent.mapM ServerMessage.encode with
  | .error e => .error (.malformed e.message)
  | .ok payloads => (Connection.frames payloads).mapError Inbound.framingFailure

/-- The outcome of a message that is missing. -/
def missing (expected : String) {α : Type} : Received α → Outcome
  | .item _ | .ended => .failed (.violation ("expected " ++ expected))
  | .failed e => .failed (.ofConnection e)
  | .waiting => .waiting

/-- Whether a proof shows that the user knows the password. `lookUp` finds the hash of a user. -/
def judge (lookUp : String → Except CredentialError NtHash) (nonce : ByteArray) (username : String)
    (proof : ByteArray) : Except LoginError Bool :=
  match lookUp username with
  | .ok hash => .ok (hash.accepts nonce.toList username proof.toList)
  | .error (.malformedRecord _) => .ok false
  | .error e => .error (.internal e.message)

/-- What is fixed before a viewer logs in. -/
structure Terms where
  /-- The user the credential was issued for. -/
  owner : String
  /-- Finds the hash of a user. -/
  lookUp : String → Except CredentialError NtHash
  /-- The random number to prove the password over. -/
  nonce : ByteArray
  peer : Option Net.SocketAddress
  encrypted : Bool := false

/-- The terms for a user whose record stands in a file with the given contents. -/
def Terms.ofFile (path : String) (contents : ByteArray) (owner : String) (nonce : ByteArray)
    (peer : Option Net.SocketAddress) (encrypted : Bool) : Terms :=
  { owner, lookUp := Record.read path contents, nonce, peer, encrypted }

/-- The login after its greeting: the proof is awaited. -/
def awaitProof (terms : Terms) (username : String) (requested : Size) (i : Inbound) : Progress :=
  let challenge := ServerMessage.challenge terms.nonce
  match i.receive ClientMessage.decode with
  | (.item (.proof proof), i) =>
    match judge terms.lookUp terms.nonce username proof with
    | .error e => ⟨.failed e, [challenge]⟩
    | .ok false =>
      let refusal := LoginError.authentication s!"invalid credentials for '{username}'"
      ⟨.failed refusal, [challenge, .verdict false]⟩
    | .ok true =>
      let inbound := i.setLimit Wire.maxFrameLength
      let connection : Connection :=
        { inbound, username := terms.owner, peer := terms.peer, requested, encrypted := terms.encrypted }
      ⟨.connected connection, [challenge, .verdict true]⟩
  | (other, _) => ⟨missing "AuthResponse" other, [challenge]⟩

/-- Let a viewer log in on a stream. -/
def accept (terms : Terms) (stream : Stream) : Progress :=
  match (Inbound.mk Wire.FrameReader.login stream).receive ClientMessage.decode with
  | (.item (.hello version username requested), i) =>
    if version = Wire.formatVersion then awaitProof terms username requested i
    else
      let text := s!"unsupported protocol version {version} (server speaks {Wire.formatVersion})"
      ⟨.failed (.violation text), []⟩
  | (other, _) => ⟨missing "Hello" other, []⟩

end Login

end RemoteDesktop
