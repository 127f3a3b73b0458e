import RemoteDesktop.Proofs.Login
import RemoteDesktop.Proofs.Wire.Parts
import RemoteDesktop.Viewer.Client

/-!
# Viewers understand the server

The two ends of a connection fit each other. A viewer whose name and password the server knows gets in:
what each side sends is what the other waits for (`login_connects`). And the viewer receives the updates that are
sent to it, one after the other and each as a whole, although they travel in frames, in parts and with their
larger rectangles in bands (`receives_sent`).
-/

namespace RemoteDesktop

open Wire

/-! ### The length of a proof -/

namespace Digest.Sha256

theorem size_step (s : Array UInt32) (constant word : UInt32) : (step s constant word).size = 8 := rfl

theorem size_foldl_step {s : Array UInt32} (h : s.size = 8) (steps : List (UInt32 × UInt32)) :
    (steps.foldl (fun s k => step s k.1 k.2) s).size = 8 := by
  induction steps generalizing s with
  | nil => exact h
  | cons k steps ih => exact ih (size_step s k.1 k.2)

theorem size_foldl_mix {s : Array UInt32} (h : s.size = 8) (blocks : List (Array UInt32)) :
    (blocks.foldl mix s).size = 8 := by
  induction blocks generalizing s with
  | nil => exact h
  | cons block blocks ih =>
    refine ih ?_
    rw [mix, Array.size_zipWith, h, size_foldl_step h]
    rfl

theorem length_digest (message : List UInt8) : (digest message).length = 32 := by
  have hsize := size_foldl_mix (s := initial) rfl
  simp only [digest, List.length_flatMap, Bytes.length_beBytes, List.map_const', List.sum_replicate_nat,
    Array.length_toList, hsize]

end Digest.Sha256

theorem NtHash.length_proof (hash : NtHash) (nonce : List UInt8) (name : String) :
    (hash.proof nonce name).length = 32 :=
  Digest.Sha256.length_digest _

/-! ### Messages of the server -/

/-- These are the bytes still to be received, in frames as long as the server sends them. -/
structure Inbound.Offers (i : Inbound) (bytes : ByteArray) : Prop where
  limit : i.reader.limit = maxFrameLength
  bytes_eq : i.bytes = bytes

namespace Viewer

variable {i : Inbound} {message : ServerMessage} {payload rest : ByteArray}

theorem receive_framed (hi : i.Offers (framed payload ++ rest)) (hencode : message.encode = .ok payload) :
    ∃ after, i.receive ServerMessage.decode = (.item message, after) ∧ after.Offers rest := by
  have hsize : payload.size ≤ maxFrameLength := by
    obtain ⟨hsize, rfl⟩ := limited_eq_ok_iff.1 hencode
    exact hsize
  have hfits : payload.size < 2 ^ 32 := Nat.lt_of_le_of_lt hsize (by decide)
  have hleads : Inbound.Leads i.reader.limit i.bytes payload rest := ⟨hi.bytes_eq, hi.limit ▸ hsize, hfits⟩
  obtain ⟨after, hreceive, hlimit, -, hbytes⟩ := Inbound.receive_of_leads hleads (delimits_server hencode).1
  exact ⟨after, hreceive, hlimit.trans hi.limit, hbytes⟩

theorem expect_framed (hi : i.Offers (framed payload ++ rest)) (hencode : message.encode = .ok payload) :
    ∃ after, expect i = (.item message, after) ∧ after.Offers rest := by
  obtain ⟨after, hreceive, hafter⟩ := receive_framed hi hencode
  exact ⟨after, by rw [expect, hreceive], hafter⟩

/-! ### Logging in -/

/-- What a viewer says first. -/
def greeting (name : String) (size : Size) : ClientMessage := .hello formatVersion name size

/-- What it answers when it is challenged. -/
def answer (name : String) (hash : NtHash) (nonce : ByteArray) : ClientMessage :=
  .proof (Bytes.ofList (hash.proof nonce.toList name))

variable {name : String} {hash : NtHash} {size : Size} {stream : Stream} {nonce : ByteArray}

theorem size_answer : (putClient (answer name hash nonce)).size ≤ loginFrameLength := by
  have hlength : (Bytes.ofList (hash.proof nonce.toList name)).size = 32 := by
    rw [Bytes.size_ofList, NtHash.length_proof]
  have hcase := (size_putNat 1).2
  have hcount := (size_putNat 32).2
  have hmax : 9 + (9 + 32) ≤ loginFrameLength := by decide
  rw [answer, putClient, ByteArray.size_append, size_putBytes, hlength]
  omega

/-- Whatever arrives, the greeting is sent first. -/
theorem sent_of_login (name : String) (hash : NtHash) (size : Size) (stream : Stream) :
    ∃ more, (login name hash size stream).2 = greeting name size :: more := by
  rw [login]
  split <;> exact ⟨_, rfl⟩

theorem login_of_challenge (name : String) (hash : NtHash) (size : Size) (hnonce : nonce.size = Login.nonceLength)
    (hstream : joined id stream.arriving = framed (putServer (.challenge nonce)) ++ rest) :
    ∃ i : Inbound, i.Offers rest ∧
      login name hash size stream = (awaitVerdict i, [greeting name size, answer name hash nonce]) := by
  have hi : Inbound.Offers ⟨{}, stream⟩ (framed (putServer (.challenge nonce)) ++ rest) :=
    ⟨rfl, ByteArray.empty_append.trans hstream⟩
  obtain ⟨i, hexpect, hrest⟩ := expect_framed hi (encode_of_size_le (Login.size_challenge hnonce))
  exact ⟨i, hrest, by rw [login, hexpect]; rfl⟩

theorem awaitVerdict_of_accepted (hi : i.Offers (framed (putServer (.verdict true)) ++ rest)) :
    ∃ after : Inbound, awaitVerdict i = .item { inbound := after } ∧ after.Offers rest := by
  obtain ⟨after, hexpect, hrest⟩ := expect_framed hi (encode_of_size_le (Login.size_verdict true))
  exact ⟨after, by rw [awaitVerdict, hexpect]; rfl, hrest⟩

/-- Whoever has sent a greeting is challenged. -/
theorem sent_of_awaitProof (terms : Login.Terms) (name : String) (size : Size) (i : Inbound) :
    ∃ more, (Login.awaitProof terms name size i).sent = .challenge terms.nonce :: more := by
  rw [Login.awaitProof]
  split
  next => split <;> exact ⟨_, rfl⟩
  next => exact ⟨_, rfl⟩

/-- **A viewer that knows its password gets in.** If each side is to read what the other sends, and any bytes
after it, then both come to the end of the login, with the bytes after it still to be read. -/
theorem login_connects {terms : Login.Terms} {toServer toViewer : Stream} {fromViewer fromServer : ByteArray}
    (hknown : terms.lookUp name = .ok hash) (hnonce : terms.nonce.size = Login.nonceLength)
    (hgreeting : (putClient (greeting name size)).size ≤ loginFrameLength)
    (hserver : joined id toServer.arriving =
      joined framed ((login name hash size toViewer).2.map putClient) ++ fromViewer)
    (hviewer : joined id toViewer.arriving =
      joined framed ((Login.accept terms toServer).sent.map putServer) ++ fromServer) :
    (∃ c, (Login.accept terms toServer).outcome = .connected c ∧
        Login.Yields terms size toServer.ends fromViewer c) ∧
      ∃ v, (login name hash size toViewer).1 = .item v ∧ v.assembler = {} ∧ v.inbound.Offers fromServer := by
  -- The greeting does not depend on what arrives, nor does the challenge depend on what follows the greeting.
  obtain ⟨more, hmore⟩ := sent_of_login name hash size toViewer
  rw [hmore, List.map_cons, joined, ByteArray.append_assoc] at hserver
  obtain ⟨i, hlimit, hends, hbytes, haccept⟩ :=
    Login.accept_of_greeting terms (hserver ▸ Login.opens_framed hgreeting _)
  obtain ⟨others, hothers⟩ := sent_of_awaitProof terms name size i
  rw [haccept, hothers, List.map_cons, joined, ByteArray.append_assoc] at hviewer
  obtain ⟨j, hj, hlogin⟩ := login_of_challenge name hash size hnonce hviewer
  -- So the proof is the answer to the challenge, and it is accepted.
  obtain rfl : more = [answer name hash terms.nonce] := by
    rw [hlogin] at hmore
    exact (List.cons.inj hmore).2.symm
  have hopens : Login.Opens (answer name hash terms.nonce) i.bytes fromViewer := by
    rw [hbytes, List.map_singleton, joined, joined, ByteArray.append_empty]
    exact Login.opens_framed size_answer _
  have hjudge : Login.judge terms.lookUp terms.nonce name (Bytes.ofList (hash.proof terms.nonce.toList name)) =
      .ok true :=
    Login.judge_eq_true_iff.2 ⟨hash, hknown, by rw [Bytes.toList_eq, Bytes.toList_ofList]⟩
  obtain ⟨hsent, hconnected, -⟩ := Login.awaitProof_of_proof size hlimit hopens hjudge
  obtain rfl : others = [.verdict true] := by
    rw [hsent] at hothers
    exact (List.cons.inj hothers).2.symm
  rw [List.map_singleton, joined, joined, ByteArray.append_empty] at hj
  obtain ⟨after, hverdict, hafter⟩ := awaitVerdict_of_accepted hj
  rw [haccept, hlogin, ← hends]
  exact ⟨hconnected rfl, ⟨after, {}⟩, hverdict, rfl, hafter⟩

/-! ### Updates -/

/-- A viewer that has received a message pushes it. -/
theorem nextUpdate_of_item {v : Viewer} {after : Inbound}
    (h : v.inbound.receive ServerMessage.decode = (.item message, after)) :
    v.nextUpdate = match v.assembler.push message with
      | (.error e, assembler) => (.failed (.unexpected e.message), ⟨after, assembler⟩)
      | (.ok (some update), assembler) => (.item update, ⟨after, assembler⟩)
      | (.ok none, assembler) => nextUpdate ⟨after, assembler⟩ := by
  rw [nextUpdate]
  split
  next hreceive =>
    rw [h] at hreceive
    cases hreceive
    rfl
  all_goals
    next hreceive =>
      rw [h] at hreceive
      cases hreceive

/-- What was sent for an update is received as one update. -/
theorem nextUpdate_sent {u : Update} {leading : List (List Rect)} {closing before : List Rect} {v : Viewer}
    {payloads : List ByteArray} (hv : v.assembler.Holds u before)
    (hsent : List.Forall₂ (fun m payload => ServerMessage.encode m = .ok payload) (sent u leading closing) payloads)
    (hbytes : v.inbound.Offers (joined framed payloads ++ rest)) :
    ∃ after, v.nextUpdate = (.item { u with rects := before ++ (leading.flatten ++ closing) }, ⟨after, {}⟩) ∧
      after.Offers rest := by
  induction leading generalizing before v payloads with
  | nil =>
    obtain ⟨payload, payloads, hencode, hnil, rfl⟩ := List.forall₂_cons_left_iff.1 hsent
    obtain rfl := List.forall₂_nil_left_iff.1 hnil
    rw [joined, joined, ByteArray.append_empty] at hbytes
    obtain ⟨after, hreceive, hafter⟩ := receive_framed hbytes hencode
    refine ⟨after, ?_, hafter⟩
    rw [nextUpdate_of_item hreceive, Assembler.push, (hv.join closing).1]
    rfl
  | cons rects leading ih =>
    obtain ⟨payload, payloads, hencode, hothers, rfl⟩ := List.forall₂_cons_left_iff.1 hsent
    rw [joined, ByteArray.append_assoc] at hbytes
    obtain ⟨after, hreceive, hafter⟩ := receive_framed hbytes hencode
    obtain ⟨last, hlast, hrest⟩ := ih (v := ⟨after, _⟩) (Assembler.holds_pending u (before ++ rects)) hothers hafter
    refine ⟨last, ?_, hrest⟩
    rw [nextUpdate_of_item hreceive, Assembler.push, (hv.join rects).2]
    simp only
    rw [hlast, List.flatten_cons, List.append_assoc, List.append_assoc]

/-- What arrives of an update: the update itself, with the rectangles that are too large in bands. -/
def Arrives (u received : Update) : Prop :=
  ∃ cuts, List.Forall₂ Carries u.rects cuts ∧ received = { u with rects := cuts.flatten }

/-- An update whose bytes are at the front is received. -/
theorem nextUpdate_updateBytes {u : Update} {v : Viewer} {bytes : ByteArray}
    (hfits : ∀ r ∈ u.rects, r.region.y.toNat + r.region.height.toNat < 2 ^ 32)
    (hsent : Connection.updateBytes u = .ok (.ok bytes)) (hempty : v.assembler = {})
    (hbytes : v.inbound.Offers (bytes ++ rest)) :
    ∃ received after, v.nextUpdate = (.item received, ⟨after, {}⟩) ∧ Arrives u received ∧ after.Offers rest := by
  rcases encodeUpdate_eq_ok hfits with ⟨-, hrefused⟩ | ⟨-, payloads, hencode, htravels⟩
  · simp only [Connection.updateBytes, hrefused, bind, Except.bind, pure, Except.pure] at hsent
    cases hsent
  · rw [Connection.updateBytes_of_encodeUpdate hencode htravels.size_le] at hsent
    cases hsent
    obtain ⟨leading, closing, cuts, hparts, hcuts, hflat, -⟩ := htravels
    have hholds : v.assembler.Holds u [] := Or.inr ⟨congrArg Assembler.pending hempty, rfl⟩
    obtain ⟨after, hnext, hafter⟩ := nextUpdate_sent hholds (hparts.imp fun _ _ h => h.1) hbytes
    rw [List.nil_append, hflat] at hnext
    exact ⟨_, after, hnext, ⟨cuts, hcuts, rfl⟩, hafter⟩

/-- The viewer receives these updates, one after the other. -/
inductive Receives : Viewer → List Update → Viewer → Prop where
  | nil (v : Viewer) : Receives v [] v
  | cons {v w x : Viewer} {u : Update} {us : List Update} :
    v.nextUpdate = (.item u, w) → Receives w us x → Receives v (u :: us) x

/-- **Updates arrive.** A viewer that is to read the bytes of some updates, and any bytes after them, receives all of
these updates in order, and has then the bytes after them still to read. -/
theorem receives_sent {us : List Update} {sends : List ByteArray} {v : Viewer}
    (hfits : ∀ u ∈ us, ∀ r ∈ u.rects, r.region.y.toNat + r.region.height.toNat < 2 ^ 32)
    (hsent : List.Forall₂ (fun u bytes => Connection.updateBytes u = .ok (.ok bytes)) us sends)
    (hempty : v.assembler = {}) (hbytes : v.inbound.Offers (joined id sends ++ rest)) :
    ∃ received w, v.Receives received w ∧ List.Forall₂ Arrives us received ∧ w.assembler = {} ∧
      w.inbound.Offers rest := by
  induction hsent generalizing v with
  | nil =>
    rw [joined, ByteArray.empty_append] at hbytes
    exact ⟨[], v, .nil v, .nil, hempty, hbytes⟩
  | @cons u bytes us sends hu _ ih =>
    obtain ⟨hfit, hfits⟩ := List.forall_mem_cons.1 hfits
    rw [joined, ByteArray.append_assoc] at hbytes
    obtain ⟨r, after, hnext, harrives, hafter⟩ := nextUpdate_updateBytes hfit hu hempty hbytes
    obtain ⟨received, w, hreceives, hall, hw, hrest⟩ := ih (v := ⟨after, {}⟩) hfits rfl hafter
    exact ⟨r :: received, w, .cons hnext hreceives, .cons harrives hall, hw, hrest⟩

end Viewer

end RemoteDesktop
