import RemoteDesktop.Proofs.Wire.Cursor
import RemoteDesktop.Wire.Framing

/-!
# Frames in a stream that arrives in pieces

A `Reception` is what has come of a stream: the payloads taken from it, the first refusal, and the reader
with the bytes that are left. After each piece frames are taken as long as there are any. What comes of a
stream does not depend on where it was cut (`arriveAll_eq`), and no byte is lost or made up on the way
(`Accounted`). Main statement: `delivery_is_independent`.
-/

namespace RemoteDesktop.Wire

/-! ### One frame -/

theorem size_framed (payload : ByteArray) : (framed payload).size = headerLength + payload.size := by
  rw [framed, ByteArray.size_append, Bytes.size_ofList, Bytes.length_beBytes]

/-- A whole frame announces its length. -/
theorem announced_framed {payload : ByteArray} (h : payload.size < 2 ^ 32) (rest : ByteArray) :
    announced (framed payload ++ rest) = payload.size := by
  have hheader : (Bytes.ofList (Bytes.beBytes headerLength payload.size)).size = headerLength := by
    rw [Bytes.size_ofList, Bytes.length_beBytes]
  rw [announced, Bytes.extract_append_of_le (by rw [size_framed]; omega), framed,
    Bytes.extract_append_of_le (by omega), Bytes.toList_eq, Bytes.toList_extract, Bytes.toList_ofList, List.drop_zero,
    Nat.sub_zero, List.take_of_length_le (Nat.le_of_eq (Bytes.length_beBytes _ _)), Bytes.beNat_beBytes h]

/-- A frame at the front of a buffer is taken, and leaves what follows it. -/
theorem takeFrame_framed {limit : Nat} {payload : ByteArray} (hlimit : payload.size ≤ limit)
    (hsize : payload.size < 2 ^ 32) (rest : ByteArray) :
    takeFrame limit (framed payload ++ rest) = (.ok (some payload), rest) := by
  have hlength : (framed payload ++ rest).size = headerLength + payload.size + rest.size := by
    rw [ByteArray.size_append, size_framed]
  have hheader : (Bytes.ofList (Bytes.beBytes headerLength payload.size)).size = headerLength := by
    rw [Bytes.size_ofList, Bytes.length_beBytes]
  have hpayload : (framed payload ++ rest).extract headerLength (headerLength + payload.size) = payload := by
    rw [Bytes.extract_append_of_le (Nat.le_of_eq (size_framed payload).symm), ← size_framed]
    have := Bytes.extract_append_size (a := Bytes.ofList (Bytes.beBytes headerLength payload.size)) (b := payload)
    rwa [hheader] at this
  have hrest : (framed payload ++ rest).extract (headerLength + payload.size) (framed payload ++ rest).size = rest := by
    rw [← size_framed]
    exact Bytes.extract_append_size
  rw [takeFrame, if_neg (by omega)]
  simp only [announced_framed hsize]
  rw [if_neg (by omega), if_neg (by omega), hpayload, hrest]

/-- A buffer has to wait for the rest of a frame, or begins with one that is refused, or with one that is taken. -/
theorem takeFrame_cases (limit : Nat) (buffer : ByteArray) :
    takeFrame limit buffer = (.ok none, buffer) ∨
      (headerLength ≤ buffer.size ∧ limit < announced buffer ∧
        takeFrame limit buffer = (.error (.tooLong (announced buffer) limit), buffer)) ∨
      ∃ payload rest, takeFrame limit buffer = (.ok (some payload), rest) ∧ buffer = framed payload ++ rest ∧
        payload.size ≤ limit ∧ payload.size < 2 ^ 32 := by
  by_cases hheader : buffer.size < headerLength
  · exact Or.inl (if_pos hheader)
  rw [takeFrame, if_neg hheader]
  by_cases hlimit : limit < announced buffer
  · exact Or.inr (Or.inl ⟨by omega, hlimit, if_pos hlimit⟩)
  by_cases hbody : buffer.size < headerLength + announced buffer
  · exact Or.inl (by simp only [if_neg hlimit, if_pos hbody])
  have hfront : (buffer.extract 0 headerLength).data.toList.length = headerLength := by
    rw [Bytes.length_toList, ByteArray.size_extract]
    omega
  have hannounced : announced buffer < 2 ^ 32 := by
    have := Bytes.beNat_lt (buffer.extract 0 headerLength).data.toList
    rwa [hfront, ← Bytes.toList_eq] at this
  have hsize : (buffer.extract headerLength (headerLength + announced buffer)).size = announced buffer := by
    rw [ByteArray.size_extract]
    omega
  -- the header is what writes the announced length
  have hwrite : Bytes.ofList (Bytes.beBytes headerLength (announced buffer)) = buffer.extract 0 headerLength := by
    apply Bytes.ext_toList
    have := Bytes.beBytes_beNat (buffer.extract 0 headerLength).data.toList
    rwa [hfront, ← Bytes.toList_eq, ← announced, Bytes.toList_eq, ← Bytes.toList_ofList (Bytes.beBytes _ _)] at this
  refine Or.inr (Or.inr ⟨buffer.extract headerLength (headerLength + announced buffer),
    buffer.extract (headerLength + announced buffer) buffer.size, by simp only [if_neg hlimit, if_neg hbody], ?_,
    by omega, by omega⟩)
  rw [framed, hsize, hwrite, ByteArray.append_assoc, Bytes.extract_append_extract_size (Nat.le_add_right _ _),
    Bytes.extract_append_extract_size (Nat.zero_le _), ByteArray.extract_zero_size]

/-- A frame that can be taken, or is refused, is so whatever follows. -/
theorem takeFrame_append {limit : Nat} {buffer : ByteArray} (more : ByteArray)
    (h : takeFrame limit buffer ≠ (.ok none, buffer)) :
    takeFrame limit (buffer ++ more) = ((takeFrame limit buffer).1, (takeFrame limit buffer).2 ++ more) := by
  rcases takeFrame_cases limit buffer with hnone | ⟨hheader, hlimit, herror⟩ | ⟨payload, rest, hsome, hbuffer, hle, hlt⟩
  · exact absurd hnone h
  · have hannounced : announced (buffer ++ more) = announced buffer := by
      rw [announced, announced, Bytes.extract_append_of_le hheader]
    rw [herror, takeFrame, if_neg (by rw [ByteArray.size_append]; omega)]
    simp only [hannounced, if_pos hlimit]
  · rw [hsome, hbuffer, ByteArray.append_assoc, takeFrame_framed hle hlt]

/-! ### A stream in pieces -/

/-- What has come of a stream. -/
structure Reception where
  reader : FrameReader
  /-- The payloads taken from the stream, in order. -/
  delivered : List ByteArray := []
  /-- The number of bytes taken from the stream. -/
  taken : Nat := 0
  /-- Where in the stream a frame was refused first, and why. -/
  refused : Option (Nat × FramingError) := none

namespace Reception

/-- Take frames until there is none, or one is refused. -/
def drain (s : Reception) : Reception :=
  match _ : s.reader.poll with
  | (.ok (some payload), reader) =>
    drain ⟨reader, s.delivered ++ [payload], s.taken + (s.reader.buffer.size - reader.buffer.size), s.refused⟩
  | (.ok none, reader) => { s with reader }
  | (.error e, reader) => { s with reader, refused := s.refused <|> some (s.taken, e) }
termination_by s.reader.buffer.size
decreasing_by exact FrameReader.size_lt_of_poll (by assumption)

/-- More bytes have arrived. -/
def feed (bytes : ByteArray) (s : Reception) : Reception := { s with reader := s.reader.feed bytes }

/-- A piece of the stream arrives, and what frames there are are taken. -/
def arrive (s : Reception) (piece : ByteArray) : Reception := (s.feed piece).drain

/-- The pieces of a stream arrive, one after the other, at a reader that accepts payloads up to `limit`. -/
def arriveAll (limit : Nat) (pieces : List ByteArray) : Reception :=
  pieces.foldl arrive ⟨({} : FrameReader).setLimit limit, [], 0, none⟩

/-- The reception after a payload was taken, with `rest` left in the buffer. -/
def deliver (s : Reception) (payload rest : ByteArray) : Reception :=
  ⟨{ s.reader with buffer := rest }, s.delivered ++ [payload], s.taken + (framed payload).size, s.refused⟩

variable {s : Reception}

theorem drain_of_none (h : takeFrame s.reader.limit s.reader.buffer = (.ok none, s.reader.buffer)) : s.drain = s := by
  have hpoll : s.reader.poll = (.ok none, s.reader) := by rw [FrameReader.poll, h]
  rw [drain]
  split
  next heq => rw [hpoll] at heq; cases heq
  next heq => rw [hpoll] at heq; cases heq; rfl
  next heq => rw [hpoll] at heq; cases heq

theorem drain_of_error {e : FramingError}
    (h : takeFrame s.reader.limit s.reader.buffer = (.error e, s.reader.buffer)) :
    s.drain = { s with refused := s.refused <|> some (s.taken, e) } := by
  have hpoll : s.reader.poll = (.error e, s.reader) := by rw [FrameReader.poll, h]
  rw [drain]
  split
  next heq => rw [hpoll] at heq; cases heq
  next heq => rw [hpoll] at heq; cases heq
  next heq => rw [hpoll] at heq; cases heq; rfl

/-- A frame at the front of the buffer is taken. -/
theorem drain_of_framed {payload rest : ByteArray} (hbuffer : s.reader.buffer = framed payload ++ rest)
    (hle : payload.size ≤ s.reader.limit) (hlt : payload.size < 2 ^ 32) :
    s.drain = (s.deliver payload rest).drain := by
  have hpoll : s.reader.poll = (.ok (some payload), { s.reader with buffer := rest }) := by
    rw [FrameReader.poll, hbuffer, takeFrame_framed hle hlt]
  have hsize : s.reader.buffer.size - rest.size = (framed payload).size := by
    rw [hbuffer, ByteArray.size_append, Nat.add_sub_cancel]
  rw [drain]
  split
  next heq => rw [hpoll] at heq; cases heq; rw [hsize, deliver]
  next heq => rw [hpoll] at heq; cases heq
  next heq => rw [hpoll] at heq; cases heq

/-- Taking frames, by what is at the front of the buffer. -/
theorem drain_induction {motive : Reception → Prop}
    (none : ∀ s, takeFrame s.reader.limit s.reader.buffer = (.ok none, s.reader.buffer) → motive s)
    (error : ∀ s e, takeFrame s.reader.limit s.reader.buffer = (.error e, s.reader.buffer) → motive s)
    (framed : ∀ s payload rest, s.reader.buffer = framed payload ++ rest → payload.size ≤ s.reader.limit →
      payload.size < 2 ^ 32 → motive (s.deliver payload rest) → motive s) (s : Reception) : motive s := by
  induction hn : s.reader.buffer.size using Nat.strongRecOn generalizing s with
  | ind n ih =>
    rcases takeFrame_cases s.reader.limit s.reader.buffer with h | ⟨-, -, h⟩ | ⟨payload, rest, -, hbuffer, hle, hlt⟩
    · exact none s h
    · exact error s _ h
    · have hsize : rest.size < n := by
        rw [← hn, hbuffer, ByteArray.size_append, size_framed, headerLength]
        omega
      exact framed s payload rest hbuffer hle hlt (ih rest.size hsize _ rfl)

/-! ### Where the stream is cut -/

/-- Whether frames are taken before more bytes arrive makes no difference. -/
theorem drain_feed (s : Reception) (more : ByteArray) : (s.drain.feed more).drain = (s.feed more).drain := by
  induction s using drain_induction with
  | none s h => rw [drain_of_none h]
  | error s e h =>
    have hfed : takeFrame s.reader.limit (s.reader.buffer ++ more) = (.error e, s.reader.buffer ++ more) := by
      rw [takeFrame_append more (by rw [h]; exact fun he => nomatch he), h]
    have hagain : takeFrame (s.drain.feed more).reader.limit (s.drain.feed more).reader.buffer =
        (.error e, (s.drain.feed more).reader.buffer) := by
      rw [drain_of_error h]
      exact hfed
    rw [drain_of_error hagain, drain_of_error (s := s.feed more) hfed, drain_of_error h]
    show Reception.mk (s.reader.feed more) s.delivered s.taken ((s.refused <|> some (s.taken, e)) <|> some (s.taken, e)) =
      ⟨s.reader.feed more, s.delivered, s.taken, s.refused <|> some (s.taken, e)⟩
    cases s.refused <;> rfl
  | framed s payload rest hbuffer hle hlt ih =>
    have hfed : (s.feed more).reader.buffer = framed payload ++ (rest ++ more) := by
      rw [← ByteArray.append_assoc, ← hbuffer]
      rfl
    rw [drain_of_framed hbuffer hle hlt, ih, drain_of_framed hfed hle hlt]
    rfl

/-- Feeding nothing changes nothing. -/
theorem feed_empty (s : Reception) : s.feed ByteArray.empty = s := by
  show { s with reader := { s.reader with buffer := s.reader.buffer ++ ByteArray.empty } } = s
  rw [ByteArray.append_empty]

theorem feed_feed (s : Reception) (a b : ByteArray) : (s.feed a).feed b = s.feed (a ++ b) := by
  show { s with reader := { s.reader with buffer := s.reader.buffer ++ a ++ b } } = _
  rw [ByteArray.append_assoc]
  rfl

/-- Pieces that arrive one after the other come to what they come to at once. -/
theorem foldl_arrive (pieces : List ByteArray) (s : Reception) :
    pieces.foldl arrive s.drain = (s.feed (joined id pieces)).drain := by
  induction pieces generalizing s with
  | nil =>
    rw [joined, feed_empty]
    rfl
  | cons piece pieces ih =>
    rw [List.foldl_cons, arrive, drain_feed, ih, feed_feed]
    rfl

/-- What comes of a stream does not depend on where it was cut. -/
theorem arriveAll_eq (limit : Nat) (pieces : List ByteArray) :
    arriveAll limit pieces = arriveAll limit [joined id pieces] := by
  have hstart : (⟨({} : FrameReader).setLimit limit, [], 0, none⟩ : Reception).drain =
      ⟨({} : FrameReader).setLimit limit, [], 0, none⟩ := drain_of_none (if_pos (show 0 < 4 by decide))
  show pieces.foldl arrive _ = arrive _ (joined id pieces)
  rw [arrive, ← foldl_arrive, hstart]

/-! ### No byte is lost -/

/-- The payloads taken, in frames, and the bytes that are left are what has arrived. -/
structure Accounted (limit : Nat) (s : Reception) (received : ByteArray) : Prop where
  limit_eq : s.reader.limit = limit
  bytes : joined framed s.delivered ++ s.reader.buffer = received
  taken : s.taken = (joined framed s.delivered).size
  allowed : ∀ payload ∈ s.delivered, payload.size ≤ limit

theorem Accounted.feed {limit : Nat} {received : ByteArray} (h : Accounted limit s received) (more : ByteArray) :
    Accounted limit (s.feed more) (received ++ more) := by
  refine ⟨h.limit_eq, ?_, h.taken, h.allowed⟩
  rw [← h.bytes, ByteArray.append_assoc]
  rfl

theorem Accounted.drain {limit : Nat} {received : ByteArray} (h : Accounted limit s received) :
    Accounted limit s.drain received := by
  induction s using drain_induction with
  | none s hnone => rwa [drain_of_none hnone]
  | error s e herror =>
    rw [drain_of_error herror]
    exact ⟨h.limit_eq, h.bytes, h.taken, h.allowed⟩
  | framed s payload rest hbuffer hle hlt ih =>
    rw [drain_of_framed hbuffer hle hlt]
    have hone : joined framed (s.deliver payload rest).delivered = joined framed s.delivered ++ framed payload := by
      rw [deliver, joined_append, joined, joined, ByteArray.append_empty]
    refine ih ⟨h.limit_eq, ?_, ?_, ?_⟩
    · rw [hone, ByteArray.append_assoc]
      exact hbuffer ▸ h.bytes
    · rw [hone, ByteArray.size_append, ← h.taken]
      rfl
    · intro p hp
      rcases List.mem_append.1 hp with hp | hp
      · exact h.allowed p hp
      · rw [List.mem_singleton.1 hp, ← h.limit_eq]
        exact hle

/-- Every byte that has arrived is accounted for. -/
theorem accounted_arriveAll (limit : Nat) (pieces : List ByteArray) :
    Accounted (min limit maxFrameLength) (arriveAll limit pieces) (joined id pieces) := by
  rw [arriveAll_eq]
  have hstart : Accounted (min limit maxFrameLength) ⟨({} : FrameReader).setLimit limit, [], 0, none⟩
      ByteArray.empty := ⟨rfl, ByteArray.append_empty, rfl, by simp⟩
  have := (hstart.feed (joined id pieces)).drain
  rwa [ByteArray.empty_append] at this

/-- Payloads that are no longer than allowed are framed. -/
theorem mapM_frame {payloads : List ByteArray} (h : ∀ payload ∈ payloads, payload.size ≤ maxFrameLength) :
    payloads.mapM frame = .ok (payloads.map framed) :=
  mapM_eq_ok fun payload hpayload => if_pos (h payload hpayload)

/-! ### Whole frames -/

/-- A row of frames is taken as a whole. -/
theorem drain_joined {payloads : List ByteArray} (hbuffer : s.reader.buffer = joined framed payloads)
    (h : ∀ payload ∈ payloads, payload.size ≤ s.reader.limit ∧ payload.size < 2 ^ 32) :
    s.drain = ⟨{ s.reader with buffer := ByteArray.empty }, s.delivered ++ payloads,
      s.taken + (joined framed payloads).size, s.refused⟩ := by
  induction payloads generalizing s with
  | nil =>
    have hempty : s.reader.buffer = ByteArray.empty := hbuffer
    rw [drain_of_none (by rw [hempty]; exact if_pos (show 0 < 4 by decide)), ← hempty, List.append_nil]
    rfl
  | cons payload payloads ih =>
    obtain ⟨hle, hlt⟩ := h payload List.mem_cons_self
    have hnext := @ih (s.deliver payload (joined framed payloads)) rfl fun p hp => h p (List.mem_cons_of_mem _ hp)
    rw [drain_of_framed hbuffer hle hlt, hnext]
    simp only [deliver, joined, List.append_assoc, ByteArray.size_append, Nat.add_assoc, List.singleton_append]

/-! ### Refusals -/

/-- A frame is refused once its header has arrived, and only if that announces too much. -/
theorem drain_refused (h : s.refused = none) (place : Nat) (e : FramingError) :
    s.drain.refused = some (place, e) ↔ place = s.drain.taken ∧
      headerLength ≤ s.drain.reader.buffer.size ∧ s.drain.reader.limit < announced s.drain.reader.buffer ∧
      e = .tooLong (announced s.drain.reader.buffer) s.drain.reader.limit := by
  induction s using drain_induction with
  | none s hnone =>
    rw [drain_of_none hnone, h]
    refine iff_of_false (by simp) ?_
    rintro ⟨-, hheader, hlimit, -⟩
    rw [takeFrame, if_neg (by omega)] at hnone
    simp only [if_pos hlimit, Prod.mk.injEq, reduceCtorEq, false_and] at hnone
  | error s e' herror =>
    rw [drain_of_error herror, h]
    rcases takeFrame_cases s.reader.limit s.reader.buffer with hnone | ⟨hheader, hlimit, htake⟩ | ⟨_, _, hsome, -⟩
    · rw [hnone] at herror
      cases herror
    · rw [htake] at herror
      cases herror
      show some (s.taken, _) = some (place, e) ↔ _
      simp only [Option.some.injEq, Prod.mk.injEq, hheader, hlimit, true_and, eq_comm]
    · rw [hsome] at herror
      cases herror
  | framed s payload rest hbuffer hle hlt ih =>
    rw [drain_of_framed hbuffer hle hlt]
    exact ih h

/-! ### The whole stream -/

/-- All of a stream, at a reader that accepts payloads up to `limit`. -/
theorem arriveAll_eq_drain (limit : Nat) (pieces : List ByteArray) :
    arriveAll limit pieces =
      drain ⟨(({} : FrameReader).setLimit limit).feed (joined id pieces), [], 0, none⟩ :=
  arriveAll_eq limit pieces

/-- The frames delivered and the bytes left are the bytes received, and a refusal comes right after them. -/
theorem arriveAll_frames (limit : Nat) (pieces : List ByteArray) :
    ∃ frames, (arriveAll limit pieces).delivered.mapM frame = .ok frames ∧
      joined id frames ++ (arriveAll limit pieces).reader.buffer = joined id pieces ∧
      ∀ place e, (arriveAll limit pieces).refused = some (place, e) ↔
        place = (joined id frames).size ∧ headerLength ≤ (arriveAll limit pieces).reader.buffer.size ∧
        min limit maxFrameLength < announced (arriveAll limit pieces).reader.buffer ∧
        e = .tooLong (announced (arriveAll limit pieces).reader.buffer) (min limit maxFrameLength) := by
  have haccounted := accounted_arriveAll limit pieces
  have hframes : joined id ((arriveAll limit pieces).delivered.map framed) =
      joined framed (arriveAll limit pieces).delivered := joined_map id framed _
  refine ⟨_, mapM_frame fun p hp => ?_, by rw [hframes, haccounted.bytes], fun place e => ?_⟩
  · exact Nat.le_trans (haccounted.allowed p hp) (Nat.min_le_right _ _)
  · rw [hframes, ← haccounted.taken, ← haccounted.limit_eq, arriveAll_eq_drain]
    exact drain_refused rfl place e

/-- Frames that arrive in pieces are delivered. -/
theorem arriveAll_of_frames {limit : Nat} {payloads frames pieces : List ByteArray}
    (hpayloads : ∀ payload ∈ payloads, payload.size ≤ min limit maxFrameLength)
    (hframes : payloads.mapM frame = .ok frames) (hpieces : joined id pieces = joined id frames) :
    arriveAll limit pieces =
      ⟨({} : FrameReader).setLimit limit, payloads, (joined framed payloads).size, none⟩ := by
  have hmax : maxFrameLength < 2 ^ 32 := by decide
  have hsize : ∀ payload ∈ payloads, payload.size ≤ maxFrameLength := fun p hp =>
    Nat.le_trans (hpayloads p hp) (Nat.min_le_right _ _)
  rw [mapM_frame hsize] at hframes
  cases hframes
  have hbuffer : ByteArray.empty ++ joined id pieces = joined framed payloads := by
    rw [ByteArray.empty_append, hpieces, joined_map]
    rfl
  have hdrain := @drain_joined ⟨(({} : FrameReader).setLimit limit).feed (joined id pieces), [], 0, none⟩ payloads
    hbuffer fun p hp => ⟨hpayloads p hp, Nat.lt_of_le_of_lt (hsize p hp) hmax⟩
  rw [arriveAll_eq_drain, hdrain, List.nil_append, Nat.zero_add]
  rfl

end Reception

open Reception

/-- **Delivery does not depend on how the bytes arrive.** What comes of a stream, however it is cut, is what
comes of it at once: the same payloads, the same refusal at the same place, the same bytes left. A reader
that yields no payload keeps its bytes. The payloads delivered, framed again, and the bytes left are the
bytes received; a frame is refused exactly when its header is there and announces too much. And a row of
payloads that are no longer than allowed is delivered as a whole. -/
theorem delivery_is_independent (limit : Nat) :
    (∀ pieces, arriveAll limit pieces = arriveAll limit [joined id pieces]) ∧
      (∀ reader : FrameReader, (∀ payload, reader.poll.1 ≠ .ok (some payload)) → reader.poll.2 = reader) ∧
      (∀ pieces, ∃ frames, (arriveAll limit pieces).delivered.mapM frame = .ok frames ∧
        joined id frames ++ (arriveAll limit pieces).reader.buffer = joined id pieces ∧
        ∀ place e, (arriveAll limit pieces).refused = some (place, e) ↔
          place = (joined id frames).size ∧ headerLength ≤ (arriveAll limit pieces).reader.buffer.size ∧
          min limit maxFrameLength < announced (arriveAll limit pieces).reader.buffer ∧
          e = .tooLong (announced (arriveAll limit pieces).reader.buffer) (min limit maxFrameLength)) ∧
      ∀ payloads frames pieces, (∀ payload ∈ payloads, payload.size ≤ min limit maxFrameLength) →
        payloads.mapM frame = .ok frames → joined id pieces = joined id frames →
        (arriveAll limit pieces).delivered = payloads ∧ (arriveAll limit pieces).refused = none ∧
          (arriveAll limit pieces).reader.buffer = ByteArray.empty := by
  refine ⟨arriveAll_eq limit, fun reader => FrameReader.poll_snd, arriveAll_frames limit, ?_⟩
  intro payloads frames pieces hpayloads hframes hpieces
  rw [arriveAll_of_frames hpayloads hframes hpieces]
  exact ⟨rfl, rfl, rfl⟩

/-- Two frames, the second of them empty, whose bytes are cut inside both headers. -/
theorem delivery_is_independent_cut_headers :
    (∀ payload ∈ [Bytes.ofList [7, 8], ByteArray.empty], payload.size ≤ min 2 maxFrameLength) ∧
      [Bytes.ofList [7, 8], ByteArray.empty].mapM frame =
        .ok [Bytes.ofList [0, 0, 0, 2, 7, 8], Bytes.ofList [0, 0, 0, 0]] ∧
      (arriveAll 2 [Bytes.ofList [0, 0], Bytes.ofList [0, 2, 7, 8, 0], Bytes.ofList [0, 0, 0]]).delivered =
        [Bytes.ofList [7, 8], ByteArray.empty] := by
  have hsize : ∀ payload ∈ [Bytes.ofList [7, 8], ByteArray.empty], payload.size ≤ min 2 maxFrameLength := by decide
  have hframes : [Bytes.ofList [7, 8], ByteArray.empty].mapM frame =
      .ok [Bytes.ofList [0, 0, 0, 2, 7, 8], Bytes.ofList [0, 0, 0, 0]] := by rfl
  exact ⟨hsize, hframes, ((delivery_is_independent 2).2.2.2 _ _ _ hsize hframes (by rfl)).1⟩

end RemoteDesktop.Wire
