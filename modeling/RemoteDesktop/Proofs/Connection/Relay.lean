import RemoteDesktop.Proofs.Connection.Answers

/-!
# A connection that is passed on answers as one that stays

What a connection off its stream holds is all that another owner needs: put on its stream again it is the
connection it was (`adopt_detach`). So taking it off and putting it on leaves what the viewer is still to
be answered as it is (`Relay.rest`), and every other step moves the next answer from there to the answers
given (`Sound.step`).

Main statement: `passed_on_answers`.
-/

namespace RemoteDesktop

open Wire

/-- A connection off its stream, put on it again, is the connection it was. -/
theorem Connection.adopt_detach {c : Connection} {d : DetachedConnection} {unavailable : Option String}
    (h : c.detach unavailable = .ok d) (hlimit : c.inbound.reader.limit = maxFrameLength) : adopt d = c := by
  obtain ⟨⟨⟨limit, buffer⟩, stream⟩, username, peer, requested, encrypted⟩ := c
  subst hlimit
  have hbuffer : Bytes.ofList buffer.toList = buffer := by
    apply Bytes.ext_toList
    rw [Bytes.toList_ofList, Bytes.toList_eq]
  cases encrypted with
  | true => cases h
  | false =>
    cases unavailable with
    | some text => cases h
    | none =>
      cases h
      rw [adopt]
      simp only [hbuffer]

namespace Relay

/-- The connection, put on its stream if it is not there. -/
def connection (x : Relay) : Connection :=
  match x.place with
  | .attached c => c
  | .detached d => .adopt d

/-- The answers that are still to be given if the connection stays where it is. -/
def rest (x : Relay) : List (Received ViewerEvent) := if x.finished then [] else (x.connection.hear x.coming).answers

/-- All answers were given: the end or a failure, or everything has arrived and there is no event. -/
def Served (x : Relay) : Prop :=
  x.finished = true ∨ x.coming.arriving = [] ∧ x.coming.ends = false ∧
    ∃ c after, x.place = .attached c ∧ c.nextEvent = (.waiting, after)

variable {x y : Relay} {c : Connection} {coming : Stream}

/-- A place that receives more holds the connection that does. -/
theorem connection_hear (x : Relay) (s later : Stream) (answers : List (Received ViewerEvent)) :
    connection ⟨x.place.hear s, later, answers⟩ = x.connection.hear s := by
  rw [connection, connection]
  cases x.place <;> rfl

theorem stream_connection (x : Relay) : x.connection.inbound.stream = x.place.stream := by
  rw [connection]
  cases x.place <;> rfl

theorem connection_of_attached {a : Connection} (h : x.place = .attached a) : x.connection = a := by
  rw [connection, h]

theorem finished_append (x : Relay) (place : Place) (coming : Stream) (answer : Received ViewerEvent) :
    finished ⟨place, coming, x.answers ++ [answer]⟩ = (x.finished || answer.isFinal) := by
  rw [finished, finished, List.any_append, List.any_cons, List.any_nil, Bool.or_false]

/-- Both connections are those of the same viewer, who asked for the same. -/
structure SameViewer (c d : Connection) : Prop where
  username : c.username = d.username
  peer : c.peer = d.peer
  requested : c.requested = d.requested

/-- What is true at every moment of a connection that began as `c`, to which `coming` was to arrive. -/
structure Sound (c : Connection) (coming : Stream) (x : Relay) : Prop where
  limit : x.connection.inbound.reader.limit = maxFrameLength
  viewer : SameViewer x.connection c
  /-- No answer is lost, given twice or out of turn. -/
  answers : x.answers ++ x.rest = (c.hear coming).answers
  /-- The frames that were answered, the bytes that have been read and those that have not are all bytes. -/
  consumed : x.finished = false → ∃ payloads, x.answers = payloads.map Connection.answerOf ∧
    joined framed payloads ++ (x.connection.inbound.bytes ++ joined id x.coming.arriving) =
      c.inbound.bytes ++ joined id coming.arriving
  /-- Nobody passes a connection on that is over. -/
  unfinished : ∀ d, x.place = .detached d → x.finished = false

theorem sound_initial (hlimit : c.inbound.reader.limit = maxFrameLength) (coming : Stream) :
    Sound c coming (initial c coming) :=
  ⟨hlimit, ⟨rfl, rfl, rfl⟩, rfl, fun _ => ⟨[], rfl, ByteArray.empty_append⟩, fun _ hd => nomatch hd⟩

namespace Sound

/-- Something arrives, and the rest is still to come. -/
theorem hear (h : Sound c coming x) {s later : Stream} (hlater : s.ends = true → later = {})
    (hopen : x.place.stream.ends = false ∨ s.arriving = [])
    (hcoming : x.coming = ⟨s.arriving ++ later.arriving, s.ends || later.ends⟩) :
    Sound c coming { x with place := x.place.hear s, coming := later } := by
  have hconnection := x.connection_hear s later x.answers
  refine ⟨?_, ?_, ?_, fun hfinished => ?_, fun d hd => ?_⟩
  · rw [hconnection]
    exact h.limit
  · rw [hconnection]
    exact ⟨h.viewer.username, h.viewer.peer, h.viewer.requested⟩
  · rw [← h.answers, rest, rest, hconnection, hcoming, Connection.hear_hear hlater]
    rfl
  · obtain ⟨payloads, hanswers, hbytes⟩ := h.consumed hfinished
    have hheard : Inbound.heard s x.place.stream = joined id s.arriving := by
      rw [Inbound.heard]
      rcases hopen with hopen | hnone
      · rw [hopen, if_neg Bool.false_ne_true]
      · rw [hnone, joined, ite_self]
    refine ⟨payloads, hanswers, ?_⟩
    rw [hconnection, ← hbytes, hcoming, Connection.hear, Inbound.bytes_hear, stream_connection, hheard, joined_append,
      ByteArray.append_assoc]
  · cases hplace : x.place with
    | attached a =>
      rw [hplace] at hd
      cases hd
    | detached e => exact h.unfinished e hplace

theorem ask (h : Sound c coming x) {a after : Connection} {answer : Received ViewerEvent} (hfinished : x.finished = false)
    (hplace : x.place = .attached a) (hnext : a.nextEvent = (answer, after)) (hanswer : answer ≠ .waiting) :
    Sound c coming { x with place := .attached after, answers := x.answers ++ [answer] } := by
  have ha := connection_of_attached hplace
  have hviewer := ha ▸ h.viewer
  obtain ⟨hlimit, husername, hpeer, hrequested⟩ := Connection.nextEvent_snd hnext
  refine ⟨hlimit.trans (ha ▸ h.limit), ⟨husername.trans hviewer.username, hpeer.trans hviewer.peer,
    hrequested.trans hviewer.requested⟩, ?_, fun hfinished' => ?_, fun d hd => nomatch hd⟩
  · have hall := h.answers
    rw [rest, hfinished, if_neg Bool.false_ne_true, ha, Connection.answers_hear x.coming hnext hanswer] at hall
    rw [rest, finished_append, hfinished, Bool.false_or, ← hall, List.append_assoc]
    rfl
  · obtain ⟨payloads, hanswers, hbytes⟩ := h.consumed hfinished
    rw [finished_append, hfinished, Bool.false_or] at hfinished'
    cases answer with
    | item event =>
      obtain ⟨payload, hpayload, hfront⟩ := Connection.bytes_of_item hnext
      refine ⟨payloads ++ [payload], ?_, ?_⟩
      · rw [List.map_append, ← hanswers, List.map_singleton, hpayload]
      · rw [← hbytes, ha, hfront, joined_append]
        simp only [joined, ByteArray.append_empty, ByteArray.append_assoc, connection]
    | ended | failed => cases hfinished'
    | waiting => exact absurd rfl hanswer

theorem wait (h : Sound c coming x) {a after : Connection} (hplace : x.place = .attached a)
    (hnext : a.nextEvent = (.waiting, after)) : Sound c coming { x with place := .attached after } := by
  have ha := connection_of_attached hplace
  have halike := Connection.alike_of_waiting hnext
  obtain ⟨-, husername, hpeer, hrequested⟩ := Connection.nextEvent_snd hnext
  have hviewer := ha ▸ h.viewer
  refine ⟨halike.limit.trans (ha ▸ h.limit), ⟨husername.trans hviewer.username, hpeer.trans hviewer.peer,
    hrequested.trans hviewer.requested⟩, ?_, fun hfinished => ?_, fun d hd => nomatch hd⟩
  · have hanswers := Connection.answers_congr (Connection.hear_alike x.coming halike)
    rw [← h.answers, rest, rest, ha, ← hanswers]
    rfl
  · obtain ⟨payloads, hanswers, hbytes⟩ := h.consumed hfinished
    refine ⟨payloads, hanswers, ?_⟩
    rw [← hbytes, ha, ← halike.bytes]
    rfl

/-- A connection that is the same in another place is as good as before. -/
theorem move (h : Sound c coming x) (hfinished : x.finished = false) {place : Place}
    (hconnection : connection { x with place } = x.connection) : Sound c coming { x with place } := by
  refine ⟨?_, ?_, ?_, fun _ => ?_, fun _ _ => hfinished⟩
  · rw [hconnection]
    exact h.limit
  · rw [hconnection]
    exact h.viewer
  · rw [← h.answers, rest, rest, hconnection]
    rfl
  · rw [hconnection]
    exact h.consumed hfinished

theorem step (h : Sound c coming x) (hstep : Step x y) : Sound c coming y := by
  cases hstep with
  | arrive hopen hcoming => exact h.hear (fun hends => absurd hends Bool.false_ne_true) (.inl hopen) hcoming
  | finish hcoming => exact h.hear (fun _ => rfl) (.inr rfl) hcoming
  | ask hfinished hplace hnext hanswer => exact h.ask hfinished hplace hnext hanswer
  | wait _ hplace hnext => exact h.wait hplace hnext
  | detach hfinished hplace hdetach =>
    apply h.move hfinished
    have ha := connection_of_attached hplace
    exact (Connection.adopt_detach hdetach (ha ▸ h.limit)).trans ha.symm
  | detachFails => exact h
  | adopt hplace =>
    apply h.move (h.unfinished _ hplace)
    simp only [connection, hplace]

theorem run (h : Sound c coming x) (hrun : Run x y) : Sound c coming y := by
  induction hrun with
  | refl => exact h
  | tail _ hstep ih => exact ih.step hstep

end Sound

/-- Who was answered everything has no answer left. -/
theorem rest_of_served (hserved : x.Served) : x.rest = [] := by
  rw [rest]
  rcases hserved with hfinished | ⟨hnone, hopen, a, after, hplace, hnext⟩
  · rw [if_pos hfinished]
  · have hcoming : x.coming = {} := by
      cases hx : x.coming
      rw [hx] at hnone hopen
      simp only at hnone hopen
      rw [hnone, hopen]
    have hsame : (a.hear {}).inbound.Alike a.inbound := by
      refine ⟨rfl, ?_, ?_⟩
      · rw [Connection.hear, Inbound.bytes_hear, Inbound.heard]
        simp only [joined, ite_self, ByteArray.append_empty]
      · rw [Connection.hear]
        simp only [Stream.ends_hear, Bool.or_false]
    rw [connection_of_attached hplace, hcoming, Connection.answers_congr hsame, Connection.answers_of_waiting hnext,
      ite_self]

/-- **A connection that is passed on loses, repeats and reorders nothing.** However often it leaves its
stream between two events and is put on it again, and however the bytes are cut, its answers are those of
a connection that stays and has the same bytes to read. It always belongs to the same viewer; off its
stream it holds exactly the bytes that were read and belong to no frame that was answered. -/
theorem passed_on_answers (hlimit : c.inbound.reader.limit = maxFrameLength) (hrun : Run (initial c coming) x) :
    (∀ stays : Connection, stays.inbound.Alike (c.hear coming).inbound →
        x.answers ++ x.rest = stays.answers ∧ (x.Served → x.answers = stays.answers)) ∧
      (∀ a, x.place = .attached a → SameViewer a c) ∧
      ∀ d, x.place = .detached d →
        d.context.username = c.username ∧ d.context.peer = c.peer ∧ d.context.requested = c.requested ∧
          ∃ payloads, x.answers = payloads.map Connection.answerOf ∧
            joined framed payloads ++ (Bytes.ofList d.context.pending ++
              (joined id d.stream.arriving ++ joined id x.coming.arriving)) =
                c.inbound.bytes ++ joined id coming.arriving := by
  have h := (sound_initial hlimit coming).run hrun
  refine ⟨fun stays hstays => ?_, fun a hplace => ?_, fun d hplace => ?_⟩
  · have hall := h.answers.trans (Connection.answers_congr hstays.symm)
    refine ⟨hall, fun hserved => ?_⟩
    rwa [rest_of_served hserved, List.append_nil] at hall
  · exact connection_of_attached hplace ▸ h.viewer
  · have hd : x.connection = .adopt d := by rw [connection, hplace]
    obtain ⟨husername, hpeer, hrequested⟩ := hd ▸ h.viewer
    obtain ⟨payloads, hanswers, hbytes⟩ := h.consumed (h.unfinished d hplace)
    refine ⟨husername, hpeer, hrequested, payloads, hanswers, ?_⟩
    have hunread : (Connection.adopt d).inbound.bytes = Bytes.ofList d.context.pending ++ joined id d.stream.arriving :=
      rfl
    rwa [hd, hunread, ByteArray.append_assoc] at hbytes

/-- A viewer asks twice for the whole picture and leaves. The second request is cut inside its header, and
the connection is passed on there, with one byte read and three still to come. -/
theorem passed_on_answers_cut_header :
    let viewer (buffer : List UInt8) (stream : Stream) : Connection :=
      { inbound := ⟨{ buffer := Bytes.ofList buffer }, stream⟩, username := "ada", peer := none, requested := ⟨0, 0⟩ }
    let coming : Stream := ⟨[Bytes.ofList [0, 0, 0, 1, 3, 0], Bytes.ofList [0, 0, 1, 3]], true⟩
    let passed : Relay :=
      ⟨.detached ⟨⟨[Bytes.ofList [0, 0, 1, 3]], false⟩, ⟨"ada", none, ⟨0, 0⟩, [0]⟩⟩, ⟨[], true⟩, [.item .refresh]⟩
    let left : Relay := ⟨.attached (viewer [] ⟨[], true⟩), {}, [.item .refresh, .item .refresh, .ended]⟩
    Run (initial (viewer [] {}) coming) passed ∧ Run passed left ∧
      ((viewer [] {}).hear coming).answers = [.item .refresh, .item .refresh, .ended] := by
  intro viewer coming passed left
  have hdetach : (viewer [0] {}).detach none = .ok ⟨{}, ⟨"ada", none, ⟨0, 0⟩, [0]⟩⟩ := by
    have hpending : (viewer [0] {}).inbound.reader.buffer.toList = [0] := by decide +kernel
    rw [Connection.detach, hpending]
    rfl
  have hask : (viewer [0] ⟨[Bytes.ofList [0, 0, 1, 3]], false⟩).nextEvent = (.item .refresh, viewer [] {}) := by
    decide +kernel
  have hfirst : Run (initial (viewer [] {}) coming)
      ⟨.attached (viewer [0] {}), ⟨[Bytes.ofList [0, 0, 1, 3]], true⟩, [.item .refresh]⟩ :=
    .tail (.tail (.refl _) (.arrive rfl rfl)) (.ask rfl rfl (by decide +kernel) (by decide))
  have hpassed : Run (initial (viewer [] {}) coming) passed :=
    .tail (.tail hfirst (.detach rfl rfl hdetach)) (.arrive rfl rfl)
  have honward : ∀ {start : Relay}, Run start passed → Run start left := by
    intro start h
    have hadopted : Run start
        ⟨.attached (viewer [0] ⟨[Bytes.ofList [0, 0, 1, 3]], false⟩), ⟨[], true⟩, [.item .refresh]⟩ :=
      .tail h (.adopt (d := ⟨⟨[Bytes.ofList [0, 0, 1, 3]], false⟩, ⟨"ada", none, ⟨0, 0⟩, [0]⟩⟩) rfl)
    have hserved : Run start ⟨.attached (viewer [] ⟨[], true⟩), {}, [.item .refresh, .item .refresh]⟩ :=
      .tail (.tail hadopted (.ask rfl rfl hask (by decide))) (.finish rfl)
    exact .tail hserved (.ask rfl rfl (by decide +kernel) (by decide))
  refine ⟨hpassed, honward (.refl _), ?_⟩
  exact (((passed_on_answers rfl (honward hpassed)).1 _ ⟨rfl, rfl, rfl⟩).2 (.inl rfl)).symm

end Relay

end RemoteDesktop
