import RemoteDesktop.Connection

/-!
# Connections that are passed on

While a viewer is served, its connection may leave its stream any number of times and be put on it again,
by the process that takes the session over or by the one that could not give it away. The system keeps
what the viewer sends in the meantime. A `Relay` is such a connection with what the viewer has still to
send; `answers` records the events that the successive owners were given, and nothing looks at it except
that nobody asks on after the end or a failure.

An owner that waits for an event may be interrupted: the bytes that have arrived are in the buffer then,
and no event was given.
-/

namespace RemoteDesktop

/-- The stream after more has arrived. A stream that has ended receives nothing more. -/
def Stream.hear (s coming : Stream) : Stream :=
  if s.ends then s else ⟨s.arriving ++ coming.arriving, coming.ends⟩

/-- Nothing is to be expected after this answer. -/
def Received.isFinal {α : Type} : Received α → Bool
  | .ended | .failed _ => true
  | .item _ | .waiting => false

namespace Connection

/-- The connection after more has arrived. -/
def hear (coming : Stream) (c : Connection) : Connection :=
  { c with inbound := { c.inbound with stream := c.inbound.stream.hear coming } }

/-- Whoever is given an event has fewer bytes left to read. -/
theorem unread_lt_of_nextEvent {c after : Connection} {event : ViewerEvent}
    (h : c.nextEvent = (.item event, after)) : after.inbound.unread < c.inbound.unread := by
  unfold nextEvent at h
  split at h
  next hreceive =>
    obtain ⟨-, rfl⟩ := Prod.mk.inj h
    exact Inbound.unread_lt_of_receive hreceive
  all_goals cases h

/-- All that asking for events again and again gives, up to the end or the first failure, or until
nothing has arrived. -/
def answers (c : Connection) : List (Received ViewerEvent) :=
  match _ : c.nextEvent with
  | (.item event, after) => .item event :: answers after
  | (.waiting, _) => []
  | (final, _) => [final]
termination_by c.inbound.unread
decreasing_by exact unread_lt_of_nextEvent (by assumption)

end Connection

namespace Relay

/-- Where the connection is. -/
inductive Place where
  | attached (connection : Connection)
  | detached (connection : DetachedConnection)

namespace Place

/-- The part of the stream that has not been read. -/
def stream : Place → Stream
  | attached c => c.inbound.stream
  | detached d => d.stream

/-- The place after more has arrived: the stream takes it up whether somebody reads it or not. -/
def hear (coming : Stream) : Place → Place
  | attached c => attached (c.hear coming)
  | detached d => detached { d with stream := d.stream.hear coming }

end Place

end Relay

/-- A connection that is passed on. -/
structure Relay where
  place : Relay.Place
  /-- What the viewer has still to send. -/
  coming : Stream
  /-- The events given so far, oldest first. -/
  answers : List (Received ViewerEvent) := []

namespace Relay

/-- The end or a failure has been given. -/
def finished (x : Relay) : Bool := x.answers.any Received.isFinal

/-- The relay as it begins. -/
def initial (c : Connection) (coming : Stream) : Relay := ⟨.attached c, coming, []⟩

/-- A single thing that happens. -/
inductive Step : Relay → Relay → Prop where
  /-- A piece of what the viewer sends arrives. -/
  | arrive {x : Relay} {piece : ByteArray} {pieces : List ByteArray} {ends : Bool} :
    x.place.stream.ends = false → x.coming = ⟨piece :: pieces, ends⟩ →
      Step x { x with place := x.place.hear ⟨[piece], false⟩, coming := ⟨pieces, ends⟩ }
  /-- The viewer closes the stream. -/
  | finish {x : Relay} :
    x.coming = ⟨[], true⟩ → Step x { x with place := x.place.hear ⟨[], true⟩, coming := {} }
  /-- The owner of the connection is given an event, the end or a failure. -/
  | ask {x : Relay} {c after : Connection} {answer : Received ViewerEvent} :
    x.finished = false → x.place = .attached c → c.nextEvent = (answer, after) → answer ≠ .waiting →
      Step x { x with place := .attached after, answers := x.answers ++ [answer] }
  /-- The owner of the connection waits for an event, and is interrupted. -/
  | wait {x : Relay} {c after : Connection} :
    x.finished = false → x.place = .attached c → c.nextEvent = (.waiting, after) →
      Step x { x with place := .attached after }
  /-- The connection leaves its stream. -/
  | detach {x : Relay} {c : Connection} {d : DetachedConnection} :
    x.finished = false → x.place = .attached c → c.detach none = .ok d →
      Step x { x with place := .detached d }
  /-- The connection cannot leave its stream; its owner goes on with it. -/
  | detachFails {x : Relay} {c : Connection} {unavailable : Option String} {e : ConnectionError} :
    x.place = .attached c → c.detach unavailable = .error e → Step x x
  /-- The connection is put on its stream, by the process it was given to or by the one that gave it. -/
  | adopt {x : Relay} {d : DetachedConnection} :
    x.place = .detached d → Step x { x with place := .attached (.adopt d) }

/-- Any number of things that happen. -/
inductive Run : Relay → Relay → Prop where
  | refl (x : Relay) : Run x x
  | tail {x y z : Relay} : Run x y → Step y z → Run x z

end Relay

end RemoteDesktop
