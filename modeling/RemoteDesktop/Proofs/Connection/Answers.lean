import RemoteDesktop.Connection.Relay
import RemoteDesktop.Proofs.Connection.Inbound

/-!
# What a connection answers depends on the bytes only

Two connections that have the same bytes to read, under the same limit, and of which both or neither are
closed after them (`Inbound.Alike`), give the same events however the bytes are cut (`answers_congr`). An
event that can be given already is given whatever the viewer sends later (`answers_hear`).
-/

namespace RemoteDesktop

open Wire

/-! ### Streams that receive more -/

namespace Stream

theorem ends_hear (s coming : Stream) : (s.hear coming).ends = (s.ends || coming.ends) := by
  rw [hear]
  cases hends : s.ends <;> simp [hends]

/-- A stream receives in one go what it receives in two. -/
theorem hear_hear {first later : Stream} (h : first.ends = true → later = {}) (s : Stream) :
    (s.hear first).hear later = s.hear ⟨first.arriving ++ later.arriving, first.ends || later.ends⟩ := by
  by_cases hs : s.ends = true
  · simp only [hear, hs, if_true]
  by_cases hfirst : first.ends = true
  · obtain rfl := h hfirst
    simp only [hear, hs, hfirst, List.append_nil, Bool.or_false, Bool.false_eq_true, if_true, if_false]
  · simp only [hear, hs, hfirst, List.append_assoc, Bool.false_or, Bool.false_eq_true, if_false]

end Stream

/-! ### Receivers of the same bytes -/

namespace Inbound

/-- Both have the same bytes to read, under the same limit. -/
structure Alike (i j : Inbound) : Prop where
  limit : i.reader.limit = j.reader.limit
  bytes : i.bytes = j.bytes
  ends : i.stream.ends = j.stream.ends

theorem Alike.symm {i j : Inbound} (h : i.Alike j) : j.Alike i := ⟨h.limit.symm, h.bytes.symm, h.ends.symm⟩

/-- The bytes that a stream takes up. -/
def heard (coming s : Stream) : ByteArray := if s.ends then ByteArray.empty else joined id coming.arriving

theorem bytes_hear (coming : Stream) (i : Inbound) :
    ({ i with stream := i.stream.hear coming } : Inbound).bytes = i.bytes ++ heard coming i.stream := by
  rw [bytes, bytes, Stream.hear, heard]
  cases i.stream.ends with
  | true => exact ByteArray.append_empty.symm
  | false =>
    show i.reader.buffer ++ joined id (i.stream.arriving ++ coming.arriving) = _
    rw [joined_append, ← ByteArray.append_assoc]
    rfl

end Inbound

namespace Connection

/-! ### One event -/

/-- What the payload of a frame asks for. -/
def answerOf (payload : ByteArray) : Received ViewerEvent :=
  match ClientMessage.decode payload with
  | .ok message => eventOf message
  | .error e => .failed (.malformed e.message)

/-- The answer to what was received. -/
def answered : Received ByteArray → Received ViewerEvent
  | .item payload => answerOf payload
  | .ended => .ended
  | .failed e => .failed e
  | .waiting => .waiting

theorem answerOf_ne_waiting (payload : ByteArray) : answerOf payload ≠ .waiting := by
  rw [answerOf]
  cases ClientMessage.decode payload with
  | ok message => cases message <;> exact fun h => nomatch h
  | error e => exact fun h => nomatch h

theorem answered_eq_waiting_iff {received : Received ByteArray} : answered received = .waiting ↔ received = .waiting := by
  cases received with
  | item payload => exact ⟨fun h => absurd h (answerOf_ne_waiting payload), fun h => nomatch h⟩
  | ended | failed | waiting => simp [answered]

/-- The next event is settled by the bytes, wherever they were cut. -/
theorem nextEvent_eq (c : Connection) :
    ∃ inbound, c.nextEvent =
        (answered (Inbound.payloadOf c.inbound.reader.limit c.inbound.stream.ends c.inbound.bytes).1,
          { c with inbound }) ∧
      inbound.reader.limit = c.inbound.reader.limit ∧ inbound.stream.ends = c.inbound.stream.ends ∧
      inbound.bytes = (Inbound.payloadOf c.inbound.reader.limit c.inbound.stream.ends c.inbound.bytes).2 := by
  obtain ⟨inbound, hreceive, hafter⟩ := c.inbound.receive_eq ClientMessage.decode
  refine ⟨inbound, ?_, hafter⟩
  rw [nextEvent, hreceive]
  cases (Inbound.payloadOf c.inbound.reader.limit c.inbound.stream.ends c.inbound.bytes).1 with
  | item payload =>
    rw [Inbound.decoded, answered, answerOf]
    cases ClientMessage.decode payload <;> rfl
  | ended | failed | waiting => rfl

variable {c after : Connection} {answer : Received ViewerEvent}

/-- Whose connection it is does not change. -/
theorem nextEvent_snd (h : c.nextEvent = (answer, after)) :
    after.inbound.reader.limit = c.inbound.reader.limit ∧ after.username = c.username ∧ after.peer = c.peer ∧
      after.requested = c.requested := by
  obtain ⟨inbound, hnext, hlimit, -⟩ := c.nextEvent_eq
  rw [hnext] at h
  cases h
  exact ⟨hlimit, rfl, rfl, rfl⟩

/-- Whoever waits keeps all bytes. -/
theorem alike_of_waiting (h : c.nextEvent = (.waiting, after)) : after.inbound.Alike c.inbound := by
  obtain ⟨inbound, hnext, hlimit, hends, hbytes⟩ := c.nextEvent_eq
  rw [hnext] at h
  obtain ⟨hwaiting, rfl⟩ := Prod.mk.inj h
  refine ⟨hlimit, ?_, hends⟩
  rw [hbytes, Inbound.payloadOf_snd_of_waiting (answered_eq_waiting_iff.1 hwaiting)]

/-- An event takes one frame, and leaves all bytes that follow it. -/
theorem bytes_of_item {event : ViewerEvent} (h : c.nextEvent = (.item event, after)) :
    ∃ payload, answerOf payload = .item event ∧ c.inbound.bytes = framed payload ++ after.inbound.bytes := by
  obtain ⟨inbound, hnext, -, -, hbytes⟩ := c.nextEvent_eq
  rw [hnext] at h
  obtain ⟨hevent, rfl⟩ := Prod.mk.inj h
  cases hreceived : (Inbound.payloadOf c.inbound.reader.limit c.inbound.stream.ends c.inbound.bytes).1 with
  | item payload =>
    rw [hreceived] at hevent
    exact ⟨payload, hevent, (Inbound.payloadOf_eq_item_iff.1 (Prod.ext hreceived hbytes.symm)).1⟩
  | ended | failed | waiting =>
    rw [hreceived] at hevent
    cases hevent

/-- Connections with the same bytes to read give the same event, and have the same bytes left. -/
theorem nextEvent_congr {d : Connection} (hcd : c.inbound.Alike d.inbound) (h : c.nextEvent = (answer, after)) :
    ∃ other, d.nextEvent = (answer, other) ∧ after.inbound.Alike other.inbound := by
  obtain ⟨inbound, hc, hlimit, hends, hbytes⟩ := c.nextEvent_eq
  obtain ⟨inbound', hd, hlimit', hends', hbytes'⟩ := d.nextEvent_eq
  rw [hc] at h
  obtain ⟨rfl, rfl⟩ := Prod.mk.inj h
  rw [← hcd.limit, ← hcd.bytes, ← hcd.ends] at hd hbytes'
  refine ⟨_, hd, ?_, hbytes.trans hbytes'.symm, ?_⟩
  · rw [hlimit, hlimit', hcd.limit]
  · rw [hends, hends', hcd.ends]

/-- An event that can be given already is given whatever arrives later. -/
theorem nextEvent_hear (coming : Stream) (h : c.nextEvent = (answer, after)) (hanswer : answer ≠ .waiting) :
    ∃ other, (c.hear coming).nextEvent = (answer, other) ∧ other.inbound.Alike (after.hear coming).inbound := by
  obtain ⟨inbound, hc, hlimit, hends, hbytes⟩ := c.nextEvent_eq
  obtain ⟨inbound', hheard, hlimit', hends', hbytes'⟩ := (c.hear coming).nextEvent_eq
  rw [hc] at h
  obtain ⟨rfl, rfl⟩ := Prod.mk.inj h
  have hmore : Inbound.payloadOf c.inbound.reader.limit (c.inbound.stream.ends || coming.ends)
      (c.inbound.bytes ++ Inbound.heard coming c.inbound.stream) = _ :=
    Inbound.payloadOf_append (fun hwaiting => hanswer (answered_eq_waiting_iff.2 hwaiting))
      fun hended => by rw [Inbound.heard, if_pos hended]
  rw [← Stream.ends_hear, ← Inbound.bytes_hear] at hmore
  simp only [hear] at hheard hbytes'
  rw [hmore] at hheard hbytes'
  refine ⟨_, hheard, ?_, ?_, ?_⟩
  · exact hlimit'.trans hlimit.symm
  · rw [hear, Inbound.bytes_hear, hbytes, Inbound.heard, hends]
    exact hbytes'
  · rw [hends', hear, hear]
    simp only [Stream.ends_hear, hends]

/-! ### All events -/

theorem answers_of_item {event : ViewerEvent} (h : c.nextEvent = (.item event, after)) :
    c.answers = .item event :: after.answers := by
  rw [answers]
  split
  next heq => rw [h] at heq; cases heq; rfl
  next heq => rw [h] at heq; cases heq
  next hitem _ heq => rw [h] at heq; cases heq; exact (hitem _ rfl).elim

theorem answers_of_waiting (h : c.nextEvent = (.waiting, after)) : c.answers = [] := by
  rw [answers]
  split
  next heq => rw [h] at heq; cases heq
  next heq => rfl
  next hwaiting heq => rw [h] at heq; cases heq; exact (hwaiting rfl).elim

theorem answers_of_final (h : c.nextEvent = (answer, after)) (hfinal : answer.isFinal = true) :
    c.answers = [answer] := by
  rw [answers]
  split
  next heq => rw [h] at heq; cases heq; cases hfinal
  next heq => rw [h] at heq; cases heq; cases hfinal
  next heq => rw [h] at heq; cases heq; rfl

/-- Asking for events, by the answer. -/
theorem answers_induction {motive : Connection → Prop}
    (item : ∀ c event after, c.nextEvent = (.item event, after) → motive after → motive c)
    (waiting : ∀ c after, c.nextEvent = (.waiting, after) → motive c)
    (final : ∀ c answer after, c.nextEvent = (answer, after) → answer.isFinal = true → motive c) (c : Connection) :
    motive c := by
  induction hn : c.inbound.unread using Nat.strongRecOn generalizing c with
  | ind n ih =>
    match hnext : c.nextEvent with
    | (.item event, after) => exact item c event after hnext (ih _ (hn ▸ unread_lt_of_nextEvent hnext) after rfl)
    | (.waiting, after) => exact waiting c after hnext
    | (.ended, after) => exact final c .ended after hnext rfl
    | (.failed e, after) => exact final c (.failed e) after hnext rfl

/-- The events do not depend on where the bytes were cut. -/
theorem answers_congr {d : Connection} (h : c.inbound.Alike d.inbound) : c.answers = d.answers := by
  induction c using answers_induction generalizing d with
  | item c event after hnext ih =>
    obtain ⟨other, hother, hafter⟩ := nextEvent_congr h hnext
    rw [answers_of_item hnext, answers_of_item hother, ih hafter]
  | waiting c after hnext =>
    obtain ⟨other, hother, -⟩ := nextEvent_congr h hnext
    rw [answers_of_waiting hnext, answers_of_waiting hother]
  | final c answer after hnext hfinal =>
    obtain ⟨other, hother, -⟩ := nextEvent_congr h hnext
    rw [answers_of_final hnext hfinal, answers_of_final hother hfinal]

/-- The first of all events is the next one, even if not everything has arrived. -/
theorem answers_hear (coming : Stream) (h : c.nextEvent = (answer, after)) (hanswer : answer ≠ .waiting) :
    (c.hear coming).answers = answer :: if answer.isFinal then [] else (after.hear coming).answers := by
  obtain ⟨other, hother, hafter⟩ := nextEvent_hear coming h hanswer
  cases answer with
  | item event => rw [answers_of_item hother, answers_congr hafter]; rfl
  | ended | failed => exact answers_of_final hother rfl
  | waiting => exact absurd rfl hanswer

/-- A connection hears in one go what it hears in two. -/
theorem hear_hear {first later : Stream} (h : first.ends = true → later = {}) (c : Connection) :
    (c.hear first).hear later = c.hear ⟨first.arriving ++ later.arriving, first.ends || later.ends⟩ := by
  simp only [hear, Stream.hear_hear h]

theorem hear_alike {d : Connection} (coming : Stream) (h : c.inbound.Alike d.inbound) :
    (c.hear coming).inbound.Alike (d.hear coming).inbound := by
  refine ⟨h.limit, ?_, ?_⟩
  · rw [hear, hear, Inbound.bytes_hear, Inbound.bytes_hear, Inbound.heard, Inbound.heard, h.bytes, h.ends]
  · rw [hear, hear]
    simp only [Stream.ends_hear, h.ends]

end Connection

end RemoteDesktop
