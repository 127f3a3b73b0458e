import RemoteDesktop.Connection.Inbound
import RemoteDesktop.Credential.Proof
import RemoteDesktop.Wire.Parts

/-!
# Viewers

The other end of a connection: a viewer logs in with the hash of its password, and then receives
updates, whose parts it joins.
-/

namespace RemoteDesktop

/-- A viewer that has logged in. -/
structure Viewer where
  inbound : Inbound
  assembler : Wire.Assembler := {}

namespace Viewer

/-- A message that a login waits for; the end of the stream is a failure. -/
def expect (i : Inbound) : Received ServerMessage × Inbound :=
  match i.receive ServerMessage.decode with
  | (.ended, i) => (.failed .closed, i)
  | other => other

/-- The result of a login that did not receive a message it can go on with. -/
def stuck (expected : String) : Received ServerMessage → Received Viewer
  | .item _ => .failed (.unexpected ("expected " ++ expected))
  | .ended => .ended
  | .failed e => .failed e
  | .waiting => .waiting

/-- The login after the greeting: the proof is sent, and the verdict awaited. -/
def awaitVerdict (i : Inbound) : Received Viewer :=
  match expect i with
  | (.item (.verdict accepted), i) => if accepted then .item { inbound := i } else .failed .rejected
  | (other, _) => stuck "AuthResult" other

/-- Log in on a stream. The answer holds the messages sent. -/
def login (username : String) (hash : NtHash) (size : Size) (stream : Stream) :
    Received Viewer × List ClientMessage :=
  let hello := ClientMessage.hello Wire.formatVersion username size
  match expect ⟨{}, stream⟩ with
  | (.item (.challenge nonce), i) =>
    let proof := Bytes.ofList (hash.proof nonce.toList username)
    (awaitVerdict i, [hello, .proof proof])
  | (other, _) => (stuck "Challenge" other, [hello])

/-- Receive the next update, all of its parts. -/
def nextUpdate (v : Viewer) : Received Update × Viewer :=
  match _ : v.inbound.receive ServerMessage.decode with
  | (.item message, inbound) =>
    match v.assembler.push message with
    | (.error e, assembler) => (.failed (.unexpected e.message), { inbound, assembler })
    | (.ok (some update), assembler) => (.item update, { inbound, assembler })
    | (.ok none, assembler) => nextUpdate { inbound, assembler }
  | (.ended, inbound) => (.ended, { v with inbound })
  | (.failed e, inbound) => (.failed e, { v with inbound })
  | (.waiting, inbound) => (.waiting, { v with inbound })
termination_by v.inbound.unread
decreasing_by exact Inbound.unread_lt_of_receive (by assumption)

end Viewer

end RemoteDesktop
