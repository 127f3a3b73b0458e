import RemoteDesktop.Login
import RemoteDesktop.Proofs.Connection.Answers
import RemoteDesktop.Proofs.Credential.Record
import RemoteDesktop.Proofs.Wire.Message

/-!
# Who gets past the login

What a login comes to is settled by the bytes of the viewer alone: whether a short frame with a greeting
is at their front, whether a short frame with a proof follows, and whether the proof is right (`Opens`,
`Knows`). Step by step: without a greeting nothing is sent (`accept_of_silent`); without a proof only the
challenge is (`awaitProof_of_silent`); a proof is answered by a verdict, and the bytes after it are those
of the connection (`awaitProof_of_proof`).

Main statement: `accept_gate`.
-/

namespace RemoteDesktop.Login

open Wire

/-- A frame at the front of the bytes, as short as a login allows, holds the message. -/
def Opens (message : ClientMessage) (bytes rest : ByteArray) : Prop :=
  ∃ payload, Inbound.Leads loginFrameLength bytes payload rest ∧ ClientMessage.decode payload = .ok message

/-- The proof is the one that the user of the hash makes under this name. -/
def Knows (user : String) (hash : NtHash) (nonce : ByteArray) (name : String) (proof : ByteArray) : Prop :=
  Text.SameAscii user.toList name.toList ∧ proof.toList = hash.proof nonce.toList name

instance (user : String) (hash : NtHash) (nonce : ByteArray) (name : String) (proof : ByteArray) :
    Decidable (Knows user hash nonce name proof) :=
  inferInstanceAs (Decidable (_ ∧ _))

/-! ### Receiving -/

/-- A message that fits into a short frame is at the front of the bytes it is sent in. -/
theorem opens_framed {message : ClientMessage} (h : (putClient message).size ≤ loginFrameLength) (rest : ByteArray) :
    Opens message (framed (putClient message) ++ rest) rest := by
  have hmax : loginFrameLength ≤ maxFrameLength := by decide
  have hfits : loginFrameLength < 2 ^ 32 := by decide
  have hencode : message.encode = .ok (putClient message) := limited_eq_ok_iff.2 ⟨Nat.le_trans h hmax, rfl⟩
  exact ⟨_, ⟨rfl, h, Nat.lt_of_le_of_lt h hfits⟩, (delimits_client hencode).1⟩

theorem receive_of_opens {message : ClientMessage} {i : Inbound} {rest : ByteArray}
    (hlimit : i.reader.limit = loginFrameLength) (h : Opens message i.bytes rest) :
    ∃ after, i.receive ClientMessage.decode = (.item message, after) ∧ after.reader.limit = loginFrameLength ∧
      after.stream.ends = i.stream.ends ∧ after.bytes = rest := by
  obtain ⟨payload, hleads, hdecode⟩ := h
  rw [← hlimit] at hleads ⊢
  exact Inbound.receive_of_leads hleads hdecode

/-- The bytes hold one message at their front. -/
theorem Opens.unique {m m' : ClientMessage} {bytes rest rest' : ByteArray} (h : Opens m bytes rest)
    (h' : Opens m' bytes rest') : m = m' ∧ rest = rest' := by
  obtain ⟨payload, hleads, hm⟩ := h
  obtain ⟨payload', hleads', hm'⟩ := h'
  have hfront := hleads.takeFrame_eq.symm.trans hleads'.takeFrame_eq
  cases hfront
  rw [hm] at hm'
  cases hm'
  exact ⟨rfl, rfl⟩

theorem opens_of_receive {message : ClientMessage} {i after : Inbound}
    (hlimit : i.reader.limit = loginFrameLength) (h : i.receive ClientMessage.decode = (.item message, after)) :
    Opens message i.bytes after.bytes := by
  obtain ⟨after', hreceive, -, -, hbytes⟩ := i.receive_eq ClientMessage.decode
  rw [hlimit] at hreceive hbytes
  rw [hreceive] at h
  obtain ⟨hitem, rfl⟩ := Prod.mk.inj h
  exact Inbound.decoded_eq_item_iff.1 ⟨hitem, hbytes.symm⟩

/-- A message that is missing connects nobody. -/
theorem missing_ne_connected (expected : String) (received : Received ClientMessage) (c : Connection) :
    missing expected received ≠ .connected c := by
  cases received <;> exact fun h => nomatch h

/-! ### The proof -/

/-- A proof is accepted exactly if it is the one that the hash found under the name makes. -/
theorem judge_eq_true_iff {lookUp : String → Except CredentialError NtHash} {nonce proof : ByteArray} {name : String} :
    judge lookUp nonce name proof = .ok true ↔
      ∃ hash, lookUp name = .ok hash ∧ proof.toList = hash.proof nonce.toList name := by
  rw [judge]
  cases lookUp name with
  | ok hash => simp [NtHash.accepts]
  | error e => cases e <;> simp

/-- Only the user of the record is judged to know the password, and is told apart from nobody else by
another outcome. -/
theorem judge_file {user : String} {hash : NtHash} (huser : Record.checkUsername user = .ok ())
    (hfits : (Record.file user hash).size ≤ Record.readLimit) (path name : String) (nonce proof : ByteArray) :
    judge (Record.read path (Record.file user hash)) nonce name proof =
      .ok (decide (Knows user hash nonce name proof)) := by
  rw [judge, Record.read_file hash path name huser hfits]
  by_cases hsame : Text.SameAscii user.toList name.toList
  · rw [if_pos hsame]
    have hknows : Knows user hash nonce name proof ↔ proof.toList = hash.proof nonce.toList name := and_iff_right hsame
    rw [decide_eq_decide.2 hknows, ← beq_eq_decide]
    rfl
  · rw [if_neg hsame]
    have hknows : ¬ Knows user hash nonce name proof := fun h => hsame h.1
    rw [decide_eq_false hknows]

variable {terms : Terms} {name : String} {requested : Size} {i : Inbound}

theorem awaitProof_of_silent (hlimit : i.reader.limit = loginFrameLength)
    (h : ∀ proof after, ¬ Opens (.proof proof) i.bytes after) :
    (awaitProof terms name requested i).sent = [.challenge terms.nonce] ∧
      ∀ c, (awaitProof terms name requested i).outcome ≠ .connected c := by
  rw [awaitProof]
  split
  next proof after hreceive => exact absurd (opens_of_receive hlimit hreceive) (h proof after.bytes)
  next other after _ _ => exact ⟨rfl, missing_ne_connected "AuthResponse" other⟩

/-- The connection of somebody who has logged in, of whose bytes `after` are still to be read. -/
structure Yields (terms : Terms) (requested : Size) (ends : Bool) (after : ByteArray) (c : Connection) : Prop where
  username : c.username = terms.owner
  peer : c.peer = terms.peer
  requested : c.requested = requested
  inbound : c.inbound.Alike ⟨{ buffer := after }, ⟨[], ends⟩⟩

theorem awaitProof_of_proof (requested : Size) {accepted : Bool} {proof after : ByteArray} (hlimit : i.reader.limit = loginFrameLength)
    (h : Opens (.proof proof) i.bytes after) (hjudge : judge terms.lookUp terms.nonce name proof = .ok accepted) :
    (awaitProof terms name requested i).sent = [.challenge terms.nonce, .verdict accepted] ∧
      (accepted = true → ∃ c, (awaitProof terms name requested i).outcome = .connected c ∧
        Yields terms requested i.stream.ends after c) ∧
      (accepted = false → ∀ c, (awaitProof terms name requested i).outcome ≠ .connected c) := by
  obtain ⟨j, hreceive, -, hends, hbytes⟩ := receive_of_opens hlimit h
  rw [awaitProof, hreceive]
  simp only [hjudge]
  cases accepted with
  | false =>
    refine ⟨rfl, fun hfalse => absurd hfalse Bool.false_ne_true, fun _ c hc => ?_⟩
    cases hc
  | true =>
    refine ⟨rfl, fun _ => ⟨_, rfl, rfl, rfl, rfl, ?_⟩, fun htrue => absurd htrue.symm Bool.false_ne_true⟩
    have hrest : (j.setLimit maxFrameLength).bytes = after := hbytes
    exact ⟨rfl, hrest.trans ByteArray.append_empty.symm, hends⟩

/-! ### The greeting -/

variable {stream : Stream}

theorem bytes_login (stream : Stream) : (Inbound.mk FrameReader.login stream).bytes = joined id stream.arriving :=
  ByteArray.empty_append

theorem accept_of_silent (h : ∀ name requested rest, ¬ Opens (.hello formatVersion name requested) (joined id stream.arriving) rest) :
    (accept terms stream).sent = [] ∧ ∀ c, (accept terms stream).outcome ≠ .connected c := by
  rw [accept]
  split
  next version name requested after hreceive =>
    by_cases hversion : version = formatVersion
    · have hopens := opens_of_receive rfl hreceive
      rw [hversion, bytes_login] at hopens
      exact absurd hopens (h name requested after.bytes)
    · rw [if_neg hversion]
      exact ⟨rfl, fun c h => nomatch h⟩
  next other after _ _ => exact ⟨rfl, missing_ne_connected "Hello" other⟩

theorem accept_of_greeting (terms : Terms) {rest : ByteArray}
    (h : Opens (.hello formatVersion name requested) (joined id stream.arriving) rest) :
    ∃ i : Inbound, i.reader.limit = loginFrameLength ∧ i.stream.ends = stream.ends ∧ i.bytes = rest ∧
      accept terms stream = awaitProof terms name requested i := by
  rw [← bytes_login] at h
  obtain ⟨i, hreceive, hlimit, hends, hbytes⟩ := receive_of_opens rfl h
  refine ⟨i, hlimit, hends, hbytes, ?_⟩
  rw [accept, hreceive]
  exact if_pos rfl

/-! ### The login as a whole -/

/-- Messages that fit into frames are sent as they stand. -/
theorem Progress.bytes_eq {p : Progress} (h : ∀ m ∈ p.sent, (putServer m).size ≤ maxFrameLength) :
    p.bytes = .ok (joined framed (p.sent.map putServer)) := by
  have hencode : p.sent.mapM ServerMessage.encode = .ok (p.sent.map putServer) :=
    mapM_eq_ok fun m hm => encode_of_size_le (h m hm)
  have hframes : Connection.frames (p.sent.map putServer) = .ok (joined framed (p.sent.map putServer)) :=
    Connection.frames_eq (List.forall_mem_map.2 h)
  rw [Progress.bytes, hencode]
  simp only [hframes]
  rfl

theorem size_challenge {nonce : ByteArray} (h : nonce.size = nonceLength) :
    (putServer (.challenge nonce)).size ≤ maxFrameLength := by
  have hcase := (size_putNat 0).2
  have hlength := (size_putNat nonce.size).2
  rw [putServer, ByteArray.size_append, size_putBytes, h]
  rw [h] at hlength
  have hmax : 9 + (9 + nonceLength) ≤ maxFrameLength := by decide
  omega

theorem size_verdict (accepted : Bool) : (putServer (.verdict accepted)).size ≤ maxFrameLength := by
  cases accepted <;> decide

/-- What a login comes to, for a user whose record holds `hash`, once a viewer has sent `bytes`. -/
structure Gate (user : String) (hash : NtHash) (terms : Terms) (ends : Bool) (bytes : ByteArray) (p : Progress) :
    Prop where
  /-- Who is connected has sent a greeting of this version and a proof of the password, and who has is. -/
  connected_iff : (∃ c, p.outcome = .connected c) ↔ ∃ name requested rest proof after,
    Opens (.hello formatVersion name requested) bytes rest ∧ Opens (.proof proof) rest after ∧
      Knows user hash terms.nonce name proof
  /-- Before a greeting nothing is sent. -/
  silent : (∀ name requested rest, ¬ Opens (.hello formatVersion name requested) bytes rest) → p.sent = []
  /-- After it the challenge is, and nothing else before a proof. -/
  challenge : ∀ name requested rest, Opens (.hello formatVersion name requested) bytes rest →
    (∀ proof after, ¬ Opens (.proof proof) rest after) → p.sent = [.challenge terms.nonce]
  /-- After a proof it is followed by one verdict, the same for an unknown user and for a wrong proof. -/
  verdict : ∀ name requested rest proof after, Opens (.hello formatVersion name requested) bytes rest →
    Opens (.proof proof) rest after →
      p.sent = [.challenge terms.nonce, .verdict (decide (Knows user hash terms.nonce name proof))] ∧
        (Knows user hash terms.nonce name proof ↔ ∃ c, p.outcome = .connected c)
  /-- What was sent fits into frames. -/
  sendable : terms.nonce.size = nonceLength → p.bytes = .ok (joined framed (p.sent.map putServer))
  /-- The connection gives the events that are in the bytes after the proof, read with the limit of a
  connection. -/
  yields : ∀ c, p.outcome = .connected c → ∃ name requested rest proof after,
    Opens (.hello formatVersion name requested) bytes rest ∧ Opens (.proof proof) rest after ∧
      Yields terms requested ends after c ∧
      c.answers = ({ c with inbound := ⟨{ buffer := after }, ⟨[], ends⟩⟩ } : Connection).answers

section

variable {user : String} {hash : NtHash} {bytes : ByteArray} {ends : Bool} {p : Progress}

theorem gate_of_silent (hnone : ∀ name requested rest, ¬ Opens (.hello formatVersion name requested) bytes rest)
    (hsent : p.sent = []) (houtcome : ∀ c, p.outcome ≠ .connected c) : Gate user hash terms ends bytes p := by
  refine ⟨⟨?_, ?_⟩, fun _ => hsent, ?_, ?_, fun _ => Progress.bytes_eq ?_, ?_⟩
  · rintro ⟨c, hc⟩
    exact absurd hc (houtcome c)
  · rintro ⟨name, requested, rest, proof, after, hopens, -⟩
    exact absurd hopens (hnone name requested rest)
  · intro name requested rest hopens
    exact absurd hopens (hnone name requested rest)
  · intro name requested rest proof after hopens
    exact absurd hopens (hnone name requested rest)
  · rw [hsent]
    exact fun m hm => absurd hm List.not_mem_nil
  · intro c hc
    exact absurd hc (houtcome c)

theorem gate_of_challenge {rest : ByteArray} (hopens : Opens (.hello formatVersion name requested) bytes rest)
    (hnone : ∀ proof after, ¬ Opens (.proof proof) rest after) (hsent : p.sent = [.challenge terms.nonce])
    (houtcome : ∀ c, p.outcome ≠ .connected c) : Gate user hash terms ends bytes p := by
  have hlater : ∀ name requested rest', Opens (.hello formatVersion name requested) bytes rest' →
      ∀ proof after, ¬ Opens (.proof proof) rest' after := by
    intro name requested rest' h proof after hproof
    obtain ⟨-, rfl⟩ := hopens.unique h
    exact hnone proof after hproof
  refine ⟨⟨?_, ?_⟩, fun h => absurd hopens (h _ _ _), fun _ _ _ _ _ => hsent, ?_, fun hnonce => Progress.bytes_eq ?_, ?_⟩
  · rintro ⟨c, hc⟩
    exact absurd hc (houtcome c)
  · rintro ⟨name, requested, rest', proof, after, h, hproof, -⟩
    exact absurd hproof (hlater name requested rest' h proof after)
  · intro name requested rest' proof after h hproof
    exact absurd hproof (hlater name requested rest' h proof after)
  · rw [hsent]
    intro m hm
    rw [List.mem_singleton.1 hm]
    exact size_challenge hnonce
  · intro c hc
    exact absurd hc (houtcome c)

theorem gate_of_proof {rest proof after : ByteArray} (hopens : Opens (.hello formatVersion name requested) bytes rest)
    (hproof : Opens (.proof proof) rest after)
    (hsent : p.sent = [.challenge terms.nonce, .verdict (decide (Knows user hash terms.nonce name proof))])
    (hyields : Knows user hash terms.nonce name proof →
      ∃ c, p.outcome = .connected c ∧ Yields terms requested ends after c)
    (hrefuses : ¬ Knows user hash terms.nonce name proof → ∀ c, p.outcome ≠ .connected c) :
    Gate user hash terms ends bytes p := by
  have hiff : Knows user hash terms.nonce name proof ↔ ∃ c, p.outcome = .connected c := by
    constructor
    · intro hknows
      obtain ⟨c, hc, -⟩ := hyields hknows
      exact ⟨c, hc⟩
    · rintro ⟨c, hc⟩
      by_contra hknows
      exact hrefuses hknows c hc
  have hsame : ∀ {name' requested' rest' proof' after'}, Opens (.hello formatVersion name' requested') bytes rest' →
      Opens (.proof proof') rest' after' → name' = name ∧ proof' = proof := by
    intro name' requested' rest' proof' after' h h'
    obtain ⟨hhello, rfl⟩ := h.unique hopens
    obtain ⟨hanswer, -⟩ := h'.unique hproof
    cases hhello
    cases hanswer
    exact ⟨rfl, rfl⟩
  refine ⟨⟨?_, ?_⟩, fun h => absurd hopens (h _ _ _), ?_, ?_, fun hnonce => Progress.bytes_eq ?_, ?_⟩
  · intro hc
    exact ⟨name, requested, rest, proof, after, hopens, hproof, hiff.2 hc⟩
  · rintro ⟨name', requested', rest', proof', after', h, h', hknows⟩
    obtain ⟨rfl, rfl⟩ := hsame h h'
    exact hiff.1 hknows
  · intro name' requested' rest' h hnone
    obtain ⟨-, rfl⟩ := h.unique hopens
    exact absurd hproof (hnone proof after)
  · intro name' requested' rest' proof' after' h h'
    obtain ⟨rfl, rfl⟩ := hsame h h'
    exact ⟨hsent, hiff⟩
  · rw [hsent]
    intro m hm
    rcases List.mem_cons.1 hm with rfl | hm
    · exact size_challenge hnonce
    · rw [List.mem_singleton.1 hm]
      exact size_verdict _
  · intro c hc
    obtain ⟨c', hc', hyield⟩ := hyields (hiff.2 ⟨c, hc⟩)
    rw [hc] at hc'
    cases hc'
    exact ⟨name, requested, rest, proof, after, hopens, hproof, hyield, Connection.answers_congr hyield.inbound⟩

end

/-- **The login lets in the user of the record, and nobody else.** Whatever a viewer sends and however it is
cut, the login comes to what the bytes sent so far say. -/
theorem accept_gate {user : String} {hash : NtHash} (huser : Record.checkUsername user = .ok ())
    (hfits : (Record.file user hash).size ≤ Record.readLimit) (path : String) (nonce : ByteArray)
    (peer : Option Net.SocketAddress) (encrypted : Bool) (stream : Stream) :
    Gate user hash (.ofFile path (Record.file user hash) user nonce peer encrypted) stream.ends
      (joined id stream.arriving)
      (accept (.ofFile path (Record.file user hash) user nonce peer encrypted) stream) := by
  generalize hterms : Terms.ofFile path (Record.file user hash) user nonce peer encrypted = terms
  have hjudge : ∀ name proof, judge terms.lookUp terms.nonce name proof =
      .ok (decide (Knows user hash terms.nonce name proof)) := by
    intro name proof
    have hlookUp : terms.lookUp = Record.read path (Record.file user hash) := by rw [← hterms, Terms.ofFile]
    rw [hlookUp]
    exact judge_file huser hfits path name terms.nonce proof
  by_cases hgreeting : ∃ name requested rest,
      Opens (.hello formatVersion name requested) (joined id stream.arriving) rest
  · obtain ⟨name, requested, rest, hopens⟩ := hgreeting
    obtain ⟨i, hlimit, hends, rfl, haccept⟩ := accept_of_greeting terms hopens
    rw [haccept, ← hends]
    by_cases hproof : ∃ proof after, Opens (.proof proof) i.bytes after
    · obtain ⟨proof, after, hproof⟩ := hproof
      obtain ⟨hsent, hyields, hrefuses⟩ := awaitProof_of_proof requested hlimit hproof (hjudge name proof)
      exact gate_of_proof hopens hproof hsent (fun h => hyields (decide_eq_true h)) fun h => hrefuses (decide_eq_false h)
    · have hnone : ∀ proof after, ¬ Opens (.proof proof) i.bytes after := fun proof after h => hproof ⟨proof, after, h⟩
      obtain ⟨hsent, houtcome⟩ := awaitProof_of_silent hlimit hnone
      exact gate_of_challenge hopens hnone hsent houtcome
  · have hnone : ∀ name requested rest,
        ¬ Opens (.hello formatVersion name requested) (joined id stream.arriving) rest :=
      fun name requested rest h => hgreeting ⟨name, requested, rest, h⟩
    obtain ⟨hsent, houtcome⟩ := accept_of_silent hnone
    exact gate_of_silent hnone hsent houtcome

/-- A viewer that knows the password logs in under its name in capitals. -/
theorem accept_gate_capitals :
    let hash : NtHash := ⟨List.replicate 16 0, rfl⟩
    let nonce := Bytes.zeros nonceLength
    let proof := Bytes.ofList (hash.proof nonce.toList "ADA")
    let hello := framed (putClient (.hello formatVersion "ADA" ⟨800, 600⟩))
    Record.checkUsername "ada" = .ok () ∧ (Record.file "ada" hash).size ≤ Record.readLimit ∧
      ∃ c, (accept (.ofFile "sam" (Record.file "ada" hash) "ada" nonce none false)
        ⟨[hello, framed (putClient (.proof proof))], false⟩).outcome = .connected c := by
  intro hash nonce proof hello
  have huser : Record.checkUsername "ada" = .ok () := by decide
  have hfits : (Record.file "ada" hash).size ≤ Record.readLimit := by decide +kernel
  have hhello : Opens (.hello formatVersion "ADA" ⟨800, 600⟩) (hello ++ (framed (putClient (.proof proof)) ++ ByteArray.empty))
      (framed (putClient (.proof proof)) ++ ByteArray.empty) := opens_framed (by decide +kernel) _
  have hproof : Opens (.proof proof) (framed (putClient (.proof proof)) ++ ByteArray.empty) ByteArray.empty :=
    opens_framed (by decide +kernel) _
  have hknows : Knows "ada" hash nonce "ADA" proof := by
    refine ⟨by decide, ?_⟩
    rw [Bytes.toList_eq, Bytes.toList_ofList]
  exact ⟨huser, hfits, (accept_gate huser hfits "sam" nonce none false
    ⟨[hello, framed (putClient (.proof proof))], false⟩).connected_iff.2 ⟨_, _, _, _, _, hhello, hproof, hknows⟩⟩

end RemoteDesktop.Login
