import RemoteDesktop.Connection
import RemoteDesktop.Handover.Transfer

/-!
# Handing a session over

How two processes settle which of them goes on with a session. The giver has taken the connection off its
stream and sends its descriptor and state; the taker reads them, starts the session without touching the
connection, and answers. The taker serves once it has written that it accepts; the giver puts the
connection on its stream again and serves once it knows that the taker does not.

`Act` are the actions that succeed, `Fault` those that fail: a write that fails has delivered less than all
of its bytes, and whoever fails closes its side of the channel between the processes. Bytes that were
written arrive in order, and both sides wait for each other as long as it takes. `Use` is what either
owner does with the viewer in the meantime. The stream to the viewer is one, whoever holds it; what is
recorded in `uses` is looked at by nobody.
-/

namespace RemoteDesktop

namespace Exchange

/-- One of the two processes. -/
inductive Side where
  | giver
  | taker
  deriving DecidableEq, Repr

/-- What is done with the connection to the viewer. -/
inductive Access where
  | read
  | write
  deriving DecidableEq, Repr

/-- Where the giver stands. -/
inductive Giver where
  | connecting
  /-- The descriptor and the header of the document are to be written. -/
  | announcing
  /-- The document is to be written. -/
  | describing
  /-- The verdict is to be read. -/
  | awaiting
  /-- The session goes on elsewhere. -/
  | transferred
  /-- The handover has failed, and given the connection back. -/
  | failed (returned : DetachedConnection) (e : HandoverError)
  /-- The session goes on here. -/
  | resumed (connection : Connection) (e : HandoverError)
  deriving DecidableEq

/-- Where the taker stands. -/
inductive Taker where
  | receiving
  /-- The session is to be started. -/
  | starting (state : HandoverState)
  /-- The session is ready, and the verdict to be written. -/
  | accepting (connection : Connection) (settings : SessionSettings)
  /-- The verdict is to be written. -/
  | refusing (e : HandoverError)
  /-- The session goes on here. -/
  | serving (connection : Connection) (settings : SessionSettings)
  /-- There is no session. -/
  | stopped
  deriving DecidableEq

/-- One direction of the channel between the processes. -/
structure Direction where
  /-- All bytes that were written. -/
  bytes : List UInt8 := []
  /-- No more bytes will be written. -/
  closed : Bool := false
  deriving DecidableEq

/-- The direction after more bytes. -/
def Direction.write (more : List UInt8) (d : Direction) : Direction :=
  { d with bytes := d.bytes ++ more }

/-- The direction after a write that failed, of which `more` was delivered. -/
def Direction.breakOff (more : List UInt8) (d : Direction) : Direction :=
  { bytes := d.bytes ++ more, closed := true }

/-- The direction of a side that is done. -/
def Direction.close (d : Direction) : Direction := { d with closed := true }

/-- A reader of one document need not wait: the document is there, or refused, or will never come. -/
def Direction.Ready (d : Direction) : Prop :=
  d.closed = true ∨ Handover.takeDocument d.bytes ≠ .error Handover.cutShort

end Exchange

/-- A handover under way. -/
structure Exchange where
  /-- What the viewer has sent and nobody has read, as far as the stream goes. -/
  socket : Stream
  /-- What the giver knows of the connection besides. -/
  context : ConnectionContext
  settings : SessionSettings
  giver : Exchange.Giver := .connecting
  taker : Exchange.Taker := .receiving
  /-- From the giver to the taker. -/
  forth : Exchange.Direction := {}
  /-- From the taker to the giver. -/
  back : Exchange.Direction := {}
  /-- The descriptor is on its way, with the first bytes forth. -/
  descriptorSent : Bool := false
  /-- How many of the first bytes forth arrive with the descriptor. -/
  split : Nat := 4
  /-- Who has read from the viewer or written to it, in order. -/
  uses : List (Exchange.Side × Exchange.Access) := []
  deriving DecidableEq

namespace Exchange

/-- The state that is handed over. -/
def state (x : Exchange) : HandoverState := ⟨HandoverState.currentVersion, x.context, x.settings⟩

/-- The document of the state. -/
def document (x : Exchange) : List UInt8 := x.state.write.toUTF8.toList

/-- The header of the document. -/
def header (x : Exchange) : List UInt8 := Bytes.beBytes Handover.headerLength x.document.length

/-- What has arrived at the taker. -/
def offer (x : Exchange) : Handover.Offer where
  descriptors := if x.descriptorSent then 1 else 0
  first := x.forth.bytes.take x.split
  rest := x.forth.bytes.drop x.split

/-- The exchange after the giver has failed. -/
def fail (e : HandoverError) (x : Exchange) : Exchange :=
  { x with giver := .failed ⟨x.socket, x.context⟩ e, forth := x.forth.close }

/-- The giver after the verdict, or the lack of one. -/
def settle (x : Exchange) : Exchange :=
  match Handover.Verdict.receive x.back.bytes with
  | .error e => x.fail e
  | .ok verdict =>
    match verdict.outcome with
    | .error e => x.fail e
    | .ok () => { x with giver := .transferred, forth := x.forth.close }

/-- The taker after it has read what was offered. -/
def read (x : Exchange) : Exchange :=
  match x.offer.receive with
  | .ok state => { x with taker := .starting state }
  | .error e => { x with taker := .refusing e }

/-- The taker after an answer, all of which was written. -/
def answer (verdict : Handover.Verdict) (taker : Taker) (x : Exchange) : Exchange :=
  { x with taker, back := (x.back.write verdict.packet).close }

/-- The taker after an answer of which the first bytes were delivered. There is no session then. -/
def breakOff (verdict : Handover.Verdict) (sent : Nat) (x : Exchange) : Exchange :=
  { x with taker := .stopped, back := x.back.breakOff (verdict.packet.take sent) }

/-- An action of one side that succeeds. -/
inductive Act : Exchange → Exchange → Prop where
  /-- The giver reaches the taker. -/
  | connect {x : Exchange} : x.giver = .connecting → Act x { x with giver := .announcing }
  /-- The giver sends the descriptor with at least one byte of the header, and the rest of it. -/
  | announce {x : Exchange} (split : Nat) :
    x.giver = .announcing → x.document.length ≤ HandoverState.maxDocumentLength →
      1 ≤ split → split ≤ Handover.headerLength →
        Act x
          { x with
            giver := .describing
            split
            descriptorSent := true
            forth := x.forth.write x.header }
  /-- The giver sends nothing of a document that is too large. -/
  | giveUp {x : Exchange} :
    x.giver = .announcing → HandoverState.maxDocumentLength < x.document.length →
      Act x (x.fail (.tooLarge x.document.length))
  /-- The giver sends the document. -/
  | describe {x : Exchange} :
    x.giver = .describing → Act x { x with giver := .awaiting, forth := x.forth.write x.document }
  /-- The giver reads the verdict. -/
  | settle {x : Exchange} : x.giver = .awaiting → x.back.Ready → Act x x.settle
  /-- The giver goes on with the connection that it was given back. -/
  | takeBack {x : Exchange} {returned : DetachedConnection} {e : HandoverError} :
    x.giver = .failed returned e → Act x { x with giver := .resumed (.adopt returned) e }
  /-- The taker reads what is offered. -/
  | read {x : Exchange} : x.taker = .receiving → x.forth.Ready → Act x x.read
  /-- The taker puts the connection on its stream and starts the session, perhaps in another size. -/
  | start {x : Exchange} {state : HandoverState} (size : Size) :
    x.taker = .starting state →
      Act x { x with taker := .accepting (.adopt ⟨x.socket, state.connection⟩) { state.session with size } }
  /-- The taker answers that the session goes on with it. -/
  | accept {x : Exchange} {connection : Connection} {settings : SessionSettings} :
    x.taker = .accepting connection settings → Act x (x.answer .yes (.serving connection settings))
  /-- The taker answers that the session does not go on with it. -/
  | refuse {x : Exchange} {e : HandoverError} :
    x.taker = .refusing e → Act x (x.answer (.no e) .stopped)

/-- An action of one side that fails. -/
inductive Fault : Exchange → Exchange → Prop where
  /-- The giver does not reach the taker, or cannot write its document. -/
  | connect {x : Exchange} (e : HandoverError) : x.giver = .connecting → Fault x (x.fail e)
  /-- The giver fails to send the header; the descriptor has left with its first byte, if any. -/
  | announce {x : Exchange} (split sent : Nat) (e : HandoverError) :
    x.giver = .announcing → x.document.length ≤ HandoverState.maxDocumentLength →
      sent < Handover.headerLength →
      Fault x
        { x with
          giver := .failed ⟨x.socket, x.context⟩ e
          split
          descriptorSent := sent ≠ 0
          forth := x.forth.breakOff (x.header.take sent) }
  /-- The giver fails to send the document. -/
  | describe {x : Exchange} (sent : Nat) (e : HandoverError) :
    x.giver = .describing → sent < x.document.length →
      Fault x
        { x with
          giver := .failed ⟨x.socket, x.context⟩ e
          forth := x.forth.breakOff (x.document.take sent) }
  /-- The taker cannot use what is offered: no descriptor came, the document is too large or malformed, or its
  version is unknown here. -/
  | read {x : Exchange} (e : HandoverError) :
    x.taker = .receiving → Fault x { x with taker := .refusing e }
  /-- The taker cannot put the connection on its stream, or cannot start the session. -/
  | start {x : Exchange} {state : HandoverState} (e : HandoverError) :
    x.taker = .starting state → Fault x { x with taker := .refusing e }
  /-- The taker fails to answer, and stops the session. -/
  | accept {x : Exchange} {connection : Connection} {settings : SessionSettings} (sent : Nat) :
    x.taker = .accepting connection settings → sent < (Handover.Verdict.packet .yes).length →
      Fault x (x.breakOff .yes sent)
  /-- The taker fails to answer that it refuses. -/
  | refuse {x : Exchange} {e : HandoverError} (sent : Nat) :
    x.taker = .refusing e → sent < (Handover.Verdict.packet (.no e)).length → Fault x (x.breakOff (.no e) sent)

/-- The connection with which a side serves the viewer. -/
def server (x : Exchange) : Side → Option Connection
  | .giver =>
    match x.giver with
    | .resumed connection _ => some connection
    | _ => none
  | .taker =>
    match x.taker with
    | .serving connection _ => some connection
    | _ => none

/-- The side serves the viewer. -/
def Serves (side : Side) (x : Exchange) : Prop := (x.server side).isSome

/-- The side that serves has another connection. -/
def advance (connection : Connection) (x : Exchange) : Side → Exchange
  | .giver =>
    match x.giver with
    | .resumed _ e => { x with giver := .resumed connection e }
    | _ => x
  | .taker =>
    match x.taker with
    | .serving _ settings => { x with taker := .serving connection settings }
    | _ => x

/-- Something that a side does with the viewer. -/
inductive Use : Exchange → Exchange → Prop where
  /-- It asks for an event. -/
  | read {x : Exchange} {side : Side} {connection after : Connection} {event : Received ViewerEvent} :
    x.server side = some connection → connection.nextEvent = (event, after) →
      Use x
        { x.advance after side with
          socket := after.inbound.stream
          uses := x.uses ++ [(side, .read)] }
  /-- It sends an update. -/
  | write {x : Exchange} {side : Side} {connection : Connection} :
    x.server side = some connection → Use x { x with uses := x.uses ++ [(side, .write)] }

/-- Anything that happens. -/
inductive Step (x y : Exchange) : Prop where
  | act (h : Act x y)
  | fault (h : Fault x y)
  | use (h : Use x y)

/-- Any number of steps. -/
inductive Run : Exchange → Exchange → Prop where
  | refl (x : Exchange) : Run x x
  | tail {x y z : Exchange} : Run x y → Step y z → Run x z

/-- The handover of a connection, as it begins. -/
def initial (detached : DetachedConnection) (settings : SessionSettings) : Exchange :=
  { socket := detached.stream, context := detached.context, settings }

/-- Neither side can go on with the handover. -/
def Terminal (x : Exchange) : Prop := ∀ y, ¬ Act x y

end Exchange

end RemoteDesktop
