import Mathlib.Logic.ExistsUnique
import RemoteDesktop.Handover.Exchange
import RemoteDesktop.Proofs.Handover.Verdict

/-!
# Exactly one side goes on with the session

The giver stops serving before the exchange begins, so nobody is left to serve if both sides give up, and
two are if both go on. What each side has written when it stands somewhere (`Giver.Sent`, `Taker.Answered`)
and what it must have read to come there (`Sound.begun`, `Sound.parted`, `Sound.handed`) exclude both. The
two facts about documents that carry this: the taker has read a state only if all of the document arrived,
and the giver reads consent only if all of it arrived. No handover goes on for ever: every action, also one
that fails, leaves fewer to come (`remaining_lt_of_act`, `remaining_lt_of_fault`).

Main statement: `exactly_one_serves`.
-/

namespace RemoteDesktop

namespace Exchange

open Handover (withHeader)
open HandoverState (maxDocumentLength)

variable {d : DetachedConnection} {settings : SessionSettings} {x y : Exchange}

/-- The giver has not written the whole document. -/
def Giver.Early : Giver → Prop
  | .connecting | .announcing | .describing => True
  | _ => False

/-- The giver has done with the handover, and has the session. -/
def Giver.Keeps : Giver → Prop
  | .failed _ _ | .resumed _ _ => True
  | _ => False

/-- The taker has read a state, and has not given it up. -/
def Taker.Begun : Taker → Prop
  | .starting _ | .accepting _ _ | .serving _ _ => True
  | _ => False

/-- What the giver has written when it stands there. -/
def Giver.Sent (document : List UInt8) (forth : Direction) : Giver → Prop
  | .connecting | .announcing => forth = {}
  | .describing => forth = ⟨Bytes.beBytes Handover.headerLength document.length, false⟩
  | .awaiting => forth = ⟨withHeader document, false⟩
  | .transferred => forth = ⟨withHeader document, true⟩
  | .failed _ _ | .resumed _ _ => forth.closed = true ∧ forth.bytes <+: withHeader document

/-- What the taker has written when it stands there. -/
def Taker.Answered (back : Direction) : Taker → Prop
  | .receiving | .starting _ | .accepting _ _ | .refusing _ => back = {}
  | .serving _ _ => back = ⟨Handover.Verdict.packet .yes, true⟩
  | .stopped => back.closed = true ∧ ∀ v, Handover.Verdict.receive back.bytes = .ok v → v.accepted = false

/-- What is true at every moment of a handover of the connection `d`. -/
structure Sound (d : DetachedConnection) (x : Exchange) : Prop where
  context : x.context = d.context
  forth : x.giver.Sent x.document x.forth
  /-- Nothing is written of a document that is too large. -/
  fits : x.forth.bytes ≠ [] → x.document.length ≤ maxDocumentLength
  back : x.taker.Answered x.back
  /-- The taker begins with nothing less than the whole document. -/
  begun : x.taker.Begun → x.forth.bytes = withHeader x.document
  /-- The giver keeps a session that the taker has given up, or cannot begin. -/
  parted : x.giver.Keeps → x.taker = .stopped ∨ x.forth.bytes ≠ withHeader x.document
  handed : x.giver = .transferred → x.Serves .taker
  returned : ∀ r e, x.giver = .failed r e → r = d
  /-- Only who serves uses the connection. -/
  used : ∀ side access, (side, access) ∈ x.uses → x.Serves side
  unread : x.uses = [] → x.socket = d.stream

theorem sound_initial (d : DetachedConnection) (settings : SessionSettings) : Sound d (initial d settings) where
  context := rfl
  forth := rfl
  fits hsome := absurd rfl hsome
  back := rfl
  begun hbegun := nomatch hbegun
  parted hkeeps := nomatch hkeeps
  handed hgiver := nomatch hgiver
  returned _ _ hgiver := nomatch hgiver
  used _ _ hmem := nomatch hmem
  unread _ := rfl

/-! ### Where the sides stand -/

theorem serves_giver : x.Serves .giver ↔ ∃ connection e, x.giver = .resumed connection e := by
  rw [Serves, server]
  cases x.giver <;> simp

theorem serves_taker : x.Serves .taker ↔ ∃ connection settings, x.taker = .serving connection settings := by
  rw [Serves, server]
  cases x.taker <;> simp

/-- A document is not empty: its header alone is less than all of it. -/
theorem document_ne_nil (x : Exchange) : x.document ≠ [] := by
  rw [document, Bytes.toList_eq]
  intro hnil
  have hempty : x.state.write = "" := by
    rw [← String.toByteArray_inj]
    exact Bytes.ext_toList hnil
  have hlist := congrArg String.toList hempty
  rw [HandoverState.write, Document.Json.write, String.toList_ofList] at hlist
  cases hlist

theorem not_ready_empty : ¬ Direction.Ready {} := by
  rintro (hclosed | htaken)
  · cases hclosed
  · exact htaken rfl

/-- The header is less than the whole document. -/
theorem header_ne_whole (x : Exchange) :
    Bytes.beBytes Handover.headerLength x.document.length ≠ withHeader x.document := by
  rw [withHeader]
  exact fun h => x.document_ne_nil (List.self_eq_append_right.1 h)

theorem nil_ne_whole (x : Exchange) : [] ≠ withHeader x.document := by
  rw [withHeader]
  exact fun h => x.document_ne_nil (List.nil_eq_append_iff.1 h).2

namespace Sound

theorem sent (h : Sound d x) {giver : Giver} (hgiver : x.giver = giver) : giver.Sent x.document x.forth :=
  hgiver ▸ h.forth

theorem answered (h : Sound d x) {taker : Taker} (htaker : x.taker = taker) : taker.Answered x.back :=
  htaker ▸ h.back

theorem front (h : Sound d x) : x.forth.bytes <+: withHeader x.document := by
  cases hgiver : x.giver with
  | connecting | announcing =>
    have hforth : x.forth = {} := h.sent hgiver
    rw [hforth]
    exact List.nil_prefix
  | describing =>
    have hforth : x.forth = ⟨_, false⟩ := h.sent hgiver
    rw [hforth]
    exact List.prefix_append _ _
  | awaiting | transferred =>
    have hforth : x.forth = ⟨_, _⟩ := h.sent hgiver
    exact ⟨[], (List.append_nil _).trans (congrArg Direction.bytes hforth)⟩
  | failed | resumed => exact (h.sent hgiver).2

/-- A document whose header was written is not too large. -/
theorem fits_of_describing (h : Sound d x) (hgiver : x.giver = .describing) : x.document.length ≤ maxDocumentLength := by
  have hforth : x.forth = ⟨_, false⟩ := h.sent hgiver
  apply h.fits
  intro hnil
  have hlength := congrArg List.length hnil
  rw [hforth] at hlength
  simp [Handover.headerLength] at hlength

/-- The taker has read a state only if all of the document has arrived. -/
theorem whole_of_receive (h : Sound d x) {state : HandoverState} (hreceive : x.offer.receive = .ok state) :
    x.forth.bytes = withHeader x.document := by
  have hbytes : x.offer.first ++ x.offer.rest = x.forth.bytes := List.take_append_drop _ _
  cases htaken : Handover.takeDocument x.forth.bytes with
  | error e =>
    rw [Handover.Offer.receive, hbytes, htaken] at hreceive
    simp only [bind, Except.bind] at hreceive
    split at hreceive
    · cases hreceive
    · split at hreceive
      · cases hreceive
      · cases hreceive
  | ok taken =>
    apply Handover.eq_withHeader_of_takeDocument h.front (h.fits ?_) htaken
    intro hnil
    rw [hnil] at htaken
    cases htaken

/-! ### Who serves -/

/-- Nobody begins with a part of the document. -/
theorem not_begun (h : Sound d x) (hpart : x.forth.bytes ≠ withHeader x.document) : ¬ x.taker.Begun :=
  fun hbegun => hpart (h.begun hbegun)

theorem begun_of_serves (hserves : x.Serves .taker) : x.taker.Begun := by
  obtain ⟨connection, settings, htaker⟩ := serves_taker.1 hserves
  rw [htaker]
  trivial

/-- As long as nobody serves, the connection is as it was. -/
theorem detached (h : Sound d x) (hserves : ∀ side, ¬ x.Serves side) : ⟨x.socket, x.context⟩ = d := by
  have hunused : x.uses = [] := by
    rw [List.eq_nil_iff_forall_not_mem]
    rintro ⟨side, access⟩ hmem
    exact hserves side (h.used side access hmem)
  rw [h.unread hunused, h.context]

theorem not_serves_of_early (hearly : x.giver.Early) : ¬ x.Serves .giver := by
  intro hserves
  obtain ⟨connection, e, hgiver⟩ := serves_giver.1 hserves
  rw [hgiver] at hearly
  exact hearly

theorem partial_of_early (h : Sound d x) (hearly : x.giver.Early) : x.forth.bytes ≠ withHeader x.document := by
  cases hgiver : x.giver with
  | connecting | announcing =>
    have hforth : x.forth = {} := h.sent hgiver
    rw [hforth]
    exact x.nil_ne_whole
  | describing =>
    have hforth : x.forth = ⟨_, false⟩ := h.sent hgiver
    rw [hforth]
    exact x.header_ne_whole
  | awaiting | transferred | failed | resumed =>
    rw [hgiver] at hearly
    exact absurd hearly not_false

/-! ### One step -/

/-- The giver writes something or not, and stands elsewhere; if it serves, it still does. -/
theorem giverMoves (h : Sound d x) {giver : Giver} {forth : Direction} {descriptorSent : Bool} {split : Nat}
    (hserves : x.Serves .giver → ∃ connection e, giver = .resumed connection e)
    (hforth : giver.Sent x.document forth)
    (hfits : forth.bytes ≠ [] → x.document.length ≤ maxDocumentLength)
    (hbegun : x.taker.Begun → forth.bytes = withHeader x.document)
    (hparted : giver.Keeps → x.taker = .stopped ∨ forth.bytes ≠ withHeader x.document)
    (hhanded : giver = .transferred → x.Serves .taker) (hreturned : ∀ r e, giver = .failed r e → r = d) :
    Sound d { x with giver, forth, descriptorSent, split } where
  context := h.context
  forth := hforth
  fits := hfits
  back := h.back
  begun := hbegun
  parted := hparted
  handed := hhanded
  returned := hreturned
  used := by
    intro side access hmem
    cases side with
    | giver => exact serves_giver.2 (hserves (h.used .giver access hmem))
    | taker => exact h.used .taker access hmem
  unread := h.unread

/-- The giver goes on before all of the document is written. -/
theorem giverGoesOn (h : Sound d x) (hearly : x.giver.Early) {giver : Giver} {forth : Direction}
    {descriptorSent : Bool} {split : Nat} (hforth : giver.Sent x.document forth) (hkeeps : ¬ giver.Keeps)
    (hhanded : giver ≠ .transferred) (hfits : forth.bytes ≠ [] → x.document.length ≤ maxDocumentLength) :
    Sound d { x with giver, forth, descriptorSent, split } := by
  refine h.giverMoves (fun hserves => absurd hserves (not_serves_of_early hearly)) hforth hfits ?_ ?_ ?_ ?_
  · exact fun hbegun => absurd hbegun (h.not_begun (h.partial_of_early hearly))
  · exact fun hkeeps' => absurd hkeeps' hkeeps
  · exact fun hgiver => absurd hgiver hhanded
  · rintro r e rfl
    exact absurd trivial hkeeps

/-- The giver fails before all of the document is written. -/
theorem giverFails (h : Sound d x) (hearly : x.giver.Early) {forth : Direction} {descriptorSent : Bool}
    {split : Nat} (e : HandoverError) (hclosed : forth.closed = true) (hfront : forth.bytes <+: withHeader x.document)
    (hshort : forth.bytes ≠ withHeader x.document)
    (hfits : forth.bytes ≠ [] → x.document.length ≤ maxDocumentLength) :
    Sound d { x with giver := .failed ⟨x.socket, x.context⟩ e, forth, descriptorSent, split } := by
  have hidle := not_serves_of_early hearly
  have htaker := h.not_begun (h.partial_of_early hearly)
  have hforth : Giver.Sent x.document forth (.failed ⟨x.socket, x.context⟩ e) := ⟨hclosed, hfront⟩
  refine h.giverMoves (fun hserves => absurd hserves hidle) hforth hfits ?_ ?_ ?_ ?_
  · exact fun hbegun => absurd hbegun htaker
  · exact fun _ => .inr hshort
  · exact fun hgiver => nomatch hgiver
  · rintro r e' hgiver
    cases hgiver
    apply h.detached
    rintro (_ | _) hserves
    · exact hidle hserves
    · exact htaker (begun_of_serves hserves)

theorem fail (h : Sound d x) (hearly : x.giver.Early) (e : HandoverError) : Sound d (x.fail e) :=
  h.giverFails hearly e rfl h.front (h.partial_of_early hearly) h.fits

/-- The taker writes something or not, and stands elsewhere; if it serves or has stopped, it still does. -/
theorem takerMoves (h : Sound d x) {taker : Taker} {back : Direction}
    (hserves : x.Serves .taker → ∃ connection settings, taker = .serving connection settings)
    (hstopped : x.taker = .stopped → taker = .stopped) (hback : taker.Answered back)
    (hbegun : taker.Begun → x.forth.bytes = withHeader x.document) : Sound d { x with taker, back } where
  context := h.context
  forth := h.forth
  fits := h.fits
  back := hback
  begun := hbegun
  parted hkeeps := (h.parted hkeeps).imp_left hstopped
  handed hgiver := serves_taker.2 (hserves (h.handed hgiver))
  returned := h.returned
  used := by
    intro side access hmem
    cases side with
    | giver => exact h.used .giver access hmem
    | taker => exact serves_taker.2 (hserves (h.used .taker access hmem))
  unread := h.unread

/-- The taker goes on before its answer is written. -/
theorem takerGoesOn (h : Sound d x) (hopen : x.back = {}) {taker : Taker} {back : Direction}
    (hback : taker.Answered back) (hbegun : taker.Begun → x.forth.bytes = withHeader x.document) :
    Sound d { x with taker, back } := by
  refine h.takerMoves ?_ ?_ hback hbegun
  · intro hserves
    obtain ⟨connection, settings, htaker⟩ := serves_taker.1 hserves
    have hclosed : x.back = ⟨_, true⟩ := h.answered htaker
    rw [hopen] at hclosed
    cases hclosed
  · intro htaker
    have hclosed := (h.answered htaker).1
    rw [hopen] at hclosed
    cases hclosed

/-- A giver whose offer was not accepted does not read consent. -/
theorem settle_of_stopped (h : Sound d x) (htaker : x.taker = .stopped) : ∃ e, x.settle = x.fail e := by
  have hback := h.answered htaker
  rw [Exchange.settle]
  cases hreceive : Handover.Verdict.receive x.back.bytes with
  | error e => exact ⟨e, rfl⟩
  | ok verdict =>
    have houtcome : verdict.outcome = .error (.rejected (verdict.reason.getD "no reason given")) := by
      rw [Handover.Verdict.outcome, hback.2 verdict hreceive, if_neg Bool.false_ne_true]
    simp only [houtcome]
    exact ⟨_, rfl⟩

/-- A giver whose offer was accepted reads consent. -/
theorem settle_of_serves (h : Sound d x) (hserves : x.Serves .taker) :
    x.settle = { x with giver := .transferred, forth := x.forth.close } := by
  obtain ⟨connection, settings, htaker⟩ := serves_taker.1 hserves
  have hback : x.back = ⟨_, true⟩ := h.answered htaker
  rw [Exchange.settle, hback, Handover.Verdict.receive_yes]
  rfl

/-- Whoever can read a verdict has waited until the taker has answered. -/
theorem answered_of_ready (h : Sound d x) (hready : x.back.Ready) : x.Serves .taker ∨ x.taker = .stopped := by
  cases htaker : x.taker with
  | receiving | starting | accepting | refusing =>
    have hback : x.back = {} := h.answered htaker
    rw [hback] at hready
    exact absurd hready not_ready_empty
  | serving connection settings => exact .inl (serves_taker.2 ⟨connection, settings, htaker⟩)
  | stopped => exact .inr rfl

theorem settle (h : Sound d x) (hgiver : x.giver = .awaiting) (hready : x.back.Ready) : Sound d x.settle := by
  have hidle : ¬ x.Serves .giver := by simp [serves_giver, hgiver]
  have hforth : x.forth = ⟨withHeader x.document, false⟩ := h.sent hgiver
  have hsent : Giver.Sent x.document x.forth.close .transferred := by
    rw [hforth]
    rfl
  rcases h.answered_of_ready hready with hserves | htaker
  · rw [h.settle_of_serves hserves]
    exact h.giverMoves (fun hserves' => absurd hserves' hidle) hsent h.fits h.begun (fun hkeeps => nomatch hkeeps)
      (fun _ => hserves) nofun
  · obtain ⟨e, hsettle⟩ := h.settle_of_stopped htaker
    rw [hsettle]
    have hfailed : Giver.Sent x.document x.forth.close (.failed ⟨x.socket, x.context⟩ e) := ⟨rfl, h.front⟩
    refine h.giverMoves (fun hserves => absurd hserves hidle) hfailed h.fits h.begun (fun _ => .inl htaker) nofun ?_
    rintro r e' hgiver'
    cases hgiver'
    apply h.detached
    rintro (_ | _) hserves
    · exact hidle hserves
    · have hbegun := begun_of_serves hserves
      rw [htaker] at hbegun
      exact hbegun

theorem act (h : Sound d x) (hact : Act x y) : Sound d y := by
  cases hact with
  | connect hgiver =>
    have hforth : x.forth = {} := h.sent hgiver
    exact h.giverGoesOn (hgiver ▸ trivial) hforth not_false nofun h.fits
  | announce split hgiver hsize =>
    have hforth : x.forth = {} := h.sent hgiver
    refine h.giverGoesOn (hgiver ▸ trivial) ?_ not_false nofun (fun _ => hsize)
    rw [hforth]
    rfl
  | giveUp hgiver => exact h.fail (hgiver ▸ trivial) _
  | describe hgiver =>
    have hforth : x.forth = ⟨_, false⟩ := h.sent hgiver
    refine h.giverGoesOn (hgiver ▸ trivial) ?_ not_false nofun (fun _ => h.fits_of_describing hgiver)
    rw [hforth]
    rfl
  | settle hgiver hready => exact h.settle hgiver hready
  | takeBack hgiver =>
    have hkeeps : x.giver.Keeps := hgiver ▸ trivial
    have hforth : x.forth.closed = true ∧ x.forth.bytes <+: withHeader x.document := h.sent hgiver
    exact h.giverMoves (fun _ => ⟨_, _, rfl⟩) hforth h.fits h.begun (fun _ => h.parted hkeeps) nofun nofun
  | read htaker hready =>
    have hback : x.back = {} := h.answered htaker
    rw [Exchange.read]
    cases hreceive : x.offer.receive with
    | ok state => exact h.takerGoesOn hback hback (fun _ => h.whole_of_receive hreceive)
    | error e => exact h.takerGoesOn hback hback False.elim
  | start size htaker =>
    have hback : x.back = {} := h.answered htaker
    exact h.takerGoesOn hback hback (fun _ => h.begun (htaker ▸ trivial))
  | accept htaker =>
    have hback : x.back = {} := h.answered htaker
    refine h.takerGoesOn hback ?_ (fun _ => h.begun (htaker ▸ trivial))
    rw [hback]
    rfl
  | refuse htaker =>
    have hback : x.back = {} := h.answered htaker
    refine h.takerGoesOn hback ?_ False.elim
    rw [hback]
    exact ⟨rfl, fun v => Handover.Verdict.accepted_of_no (List.prefix_refl _)⟩

theorem fault (h : Sound d x) (hfault : Fault x y) : Sound d y := by
  cases hfault with
  | connect e hgiver => exact h.fail (hgiver ▸ trivial) e
  | announce split sent e hgiver hsize hsent =>
    have hforth : x.forth = {} := h.sent hgiver
    have hheader : x.header.length = Handover.headerLength := Bytes.length_beBytes _ _
    refine h.giverFails (hgiver ▸ trivial) e rfl ?_ ?_ (fun _ => hsize)
    · rw [hforth]
      exact (List.take_prefix sent x.header).trans (List.prefix_append x.header x.document)
    · rw [hforth]
      intro hwhole
      have hlength := congrArg List.length hwhole
      simp only [Direction.breakOff, List.nil_append, List.length_take, withHeader, List.length_append,
        Bytes.length_beBytes] at hlength
      omega
  | describe sent e hgiver hsent =>
    have hforth : x.forth = ⟨_, false⟩ := h.sent hgiver
    refine h.giverFails (hgiver ▸ trivial) e rfl ?_ ?_ (fun _ => h.fits_of_describing hgiver)
    · rw [hforth]
      exact (List.prefix_append_right_inj _).2 (List.take_prefix sent x.document)
    · rw [hforth]
      intro hwhole
      have hlength := congrArg List.length (List.append_cancel_left hwhole)
      rw [List.length_take] at hlength
      omega
  | read e htaker =>
    have hback : x.back = {} := h.answered htaker
    exact h.takerGoesOn hback hback False.elim
  | start e htaker =>
    have hback : x.back = {} := h.answered htaker
    exact h.takerGoesOn hback hback False.elim
  | accept sent htaker hsent =>
    have hback : x.back = {} := h.answered htaker
    refine h.takerGoesOn hback ?_ False.elim
    rw [hback]
    refine ⟨rfl, fun v hreceive => ?_⟩
    have hall := congrArg List.length (Handover.Verdict.eq_packet_of_receive (List.take_prefix sent _) hreceive)
    rw [List.length_take] at hall
    omega
  | refuse sent htaker =>
    have hback : x.back = {} := h.answered htaker
    refine h.takerGoesOn hback ?_ False.elim
    rw [hback]
    exact ⟨rfl, fun v => Handover.Verdict.accepted_of_no (List.take_prefix sent _)⟩

/-- Who serves uses the connection. -/
theorem uses (h : Sound d x) {side : Side} (hserves : x.Serves side) (access : Access) (socket : Stream) :
    Sound d { x with socket, uses := x.uses ++ [(side, access)] } where
  context := h.context
  forth := h.forth
  fits := h.fits
  back := h.back
  begun := h.begun
  parted := h.parted
  handed := h.handed
  returned := h.returned
  used := by
    intro side' access' hmem
    rcases List.mem_append.1 hmem with hbefore | hnow
    · exact h.used side' access' hbefore
    · cases List.mem_singleton.1 hnow
      exact hserves
  unread hnil := absurd hnil (List.append_ne_nil_of_right_ne_nil _ (List.cons_ne_nil _ _))

/-- It is not looked at with which connection a side serves. -/
theorem advance (h : Sound d x) {connection : Connection} (side : Side) (hserves : x.Serves side) :
    Sound d (x.advance connection side) ∧ (x.advance connection side).Serves side := by
  cases side with
  | giver =>
    obtain ⟨before, e, hgiver⟩ := serves_giver.1 hserves
    have hadvance : x.advance connection .giver = { x with giver := .resumed connection e } := by
      rw [Exchange.advance, hgiver]
    have hforth : x.forth.closed = true ∧ x.forth.bytes <+: withHeader x.document := h.sent hgiver
    rw [hadvance]
    refine ⟨?_, rfl⟩
    exact h.giverMoves (fun _ => ⟨_, _, rfl⟩) hforth h.fits h.begun (fun _ => h.parted (hgiver ▸ trivial)) nofun nofun
  | taker =>
    obtain ⟨before, settings, htaker⟩ := serves_taker.1 hserves
    have hadvance : x.advance connection .taker = { x with taker := .serving connection settings } := by
      rw [Exchange.advance, htaker]
    have hback : x.back = ⟨_, true⟩ := h.answered htaker
    have hbegun := begun_of_serves hserves
    rw [hadvance]
    refine ⟨?_, rfl⟩
    refine h.takerMoves (fun _ => ⟨_, _, rfl⟩) (fun hstopped => ?_) hback (fun _ => h.begun hbegun)
    rw [htaker] at hstopped
    cases hstopped

theorem use (h : Sound d x) (huse : Use x y) : Sound d y := by
  cases huse with
  | @read side connection after event hserver hnext =>
    have hserves : x.Serves side := by rw [Serves, hserver]; rfl
    obtain ⟨hsound, hstill⟩ := h.advance side hserves
    have huses : (x.advance after side).uses = x.uses := by
      cases side with
      | giver => rw [Exchange.advance]; split <;> rfl
      | taker => rw [Exchange.advance]; split <;> rfl
    rw [← huses]
    exact hsound.uses hstill .read after.inbound.stream
  | @write side connection hserver =>
    have hserves : x.Serves side := by rw [Serves, hserver]; rfl
    exact h.uses hserves .write x.socket

theorem step (h : Sound d x) (hstep : Step x y) : Sound d y := by
  cases hstep with
  | act hact => exact h.act hact
  | fault hfault => exact h.fault hfault
  | use huse => exact h.use huse

theorem run (h : Sound d x) (hrun : Run x y) : Sound d y := by
  induction hrun with
  | refl => exact h
  | tail _ hstep ih => exact ih.step hstep

end Sound

/-! ### The end of a handover -/

/-- A side that serves has parted from the other. -/
theorem Sound.not_both (h : Sound d x) (hgiver : x.Serves .giver) (htaker : x.Serves .taker) : False := by
  obtain ⟨connection, e, hresumed⟩ := serves_giver.1 hgiver
  have hbegun := Sound.begun_of_serves htaker
  rcases h.parted (hresumed ▸ trivial) with hstopped | hpart
  · rw [hstopped] at hbegun
    exact hbegun
  · exact hpart (h.begun hbegun)

/-- Once the giver has written the whole document or has failed, the taker need not wait. -/
theorem Sound.forth_ready (h : Sound d x) (hwritten : ¬ x.giver.Early) : x.forth.Ready := by
  cases hgiver : x.giver with
  | connecting | announcing | describing => exact absurd (hgiver ▸ trivial) hwritten
  | awaiting =>
    have hforth : x.forth = ⟨_, false⟩ := h.sent hgiver
    have hsize : x.document.length ≤ maxDocumentLength := by
      apply h.fits
      rw [hforth]
      exact x.nil_ne_whole.symm
    refine .inr fun hcut => ?_
    rw [hforth, Handover.takeDocument_withHeader hsize] at hcut
    cases hcut
  | transferred =>
    have hforth : x.forth = ⟨_, true⟩ := h.sent hgiver
    exact .inl (by rw [hforth])
  | failed | resumed => exact .inl (h.sent hgiver).1

/-- Once the taker has answered or stopped, the giver need not wait. -/
theorem Sound.back_ready (h : Sound d x) (hanswered : x.Serves .taker ∨ x.taker = .stopped) : x.back.Ready := by
  rcases hanswered with hserves | hstopped
  · obtain ⟨connection, settings, htaker⟩ := serves_taker.1 hserves
    have hback : x.back = ⟨_, true⟩ := h.answered htaker
    exact .inl (by rw [hback])
  · exact .inl (h.answered hstopped).1

/-- A giver that cannot go on waits for an answer, or needs none any more. -/
theorem giver_of_terminal (hterminal : x.Terminal) :
    x.giver = .awaiting ∨ x.giver = .transferred ∨ x.Serves .giver := by
  cases hgiver : x.giver with
  | connecting => exact absurd (.connect hgiver) (hterminal _)
  | announcing =>
    by_cases hsize : x.document.length ≤ maxDocumentLength
    · exact absurd (.announce 1 hgiver hsize (by decide) (by decide)) (hterminal _)
    · exact absurd (.giveUp hgiver (Nat.lt_of_not_le hsize)) (hterminal _)
  | describing => exact absurd (.describe hgiver) (hterminal _)
  | awaiting => exact .inl rfl
  | transferred => exact .inr (.inl rfl)
  | failed => exact absurd (.takeBack hgiver) (hterminal _)
  | resumed connection e => exact .inr (.inr (serves_giver.2 ⟨connection, e, hgiver⟩))

/-- When neither side can go on, the taker has answered. -/
theorem Sound.taker_of_terminal (h : Sound d x) (hterminal : x.Terminal) : x.Serves .taker ∨ x.taker = .stopped := by
  cases htaker : x.taker with
  | receiving =>
    have hwritten : ¬ x.giver.Early := by
      rcases giver_of_terminal hterminal with hgiver | hgiver | hserves
      · rw [hgiver]
        exact not_false
      · rw [hgiver]
        exact not_false
      · exact fun hearly => Sound.not_serves_of_early hearly hserves
    exact absurd (.read htaker (h.forth_ready hwritten)) (hterminal _)
  | starting state => exact absurd (.start state.session.size htaker) (hterminal _)
  | accepting => exact absurd (.accept htaker) (hterminal _)
  | refusing => exact absurd (.refuse htaker) (hterminal _)
  | serving connection settings => exact .inl (serves_taker.2 ⟨connection, settings, htaker⟩)
  | stopped => exact .inr rfl

/-- When neither side can go on, each of them knows whether it serves. -/
theorem Sound.end_of_terminal (h : Sound d x) (hterminal : x.Terminal) :
    (x.giver = .transferred ∧ x.Serves .taker) ∨ (x.Serves .giver ∧ x.taker = .stopped) := by
  have htaker := h.taker_of_terminal hterminal
  rcases giver_of_terminal hterminal with hgiver | hgiver | hserves
  · exact absurd (.settle hgiver (h.back_ready htaker)) (hterminal _)
  · exact .inl ⟨hgiver, h.handed hgiver⟩
  · exact .inr ⟨hserves, htaker.resolve_left fun hboth => h.not_both hserves hboth⟩

/-- How many actions the giver has before it, at most. -/
def Giver.remaining : Giver → Nat
  | .connecting => 5
  | .announcing => 4
  | .describing => 3
  | .awaiting => 2
  | .failed _ _ => 1
  | .transferred | .resumed _ _ => 0

/-- How many actions the taker has before it, at most. -/
def Taker.remaining : Taker → Nat
  | .receiving => 3
  | .starting _ => 2
  | .accepting _ _ | .refusing _ => 1
  | .serving _ _ | .stopped => 0

/-- How many actions the two sides have before them, at most. -/
def remaining (x : Exchange) : Nat := x.giver.remaining + x.taker.remaining

theorem remaining_lt_of_act (hact : Act x y) : y.remaining < x.remaining := by
  cases hact with
  | connect hgiver | announce _ hgiver | giveUp hgiver | describe hgiver | takeBack hgiver =>
    simp only [remaining, hgiver, fail, Giver.remaining]
    omega
  | settle hgiver =>
    rw [Exchange.settle]
    split
    · simp only [remaining, hgiver, fail, Giver.remaining]
      omega
    · split
      · simp only [remaining, hgiver, fail, Giver.remaining]
        omega
      · simp only [remaining, hgiver, Giver.remaining]
        omega
  | read htaker =>
    rw [Exchange.read]
    split
    · simp only [remaining, htaker, Taker.remaining]
      omega
    · simp only [remaining, htaker, Taker.remaining]
      omega
  | start _ htaker | accept htaker | refuse htaker =>
    simp only [remaining, htaker, answer, Taker.remaining]
    omega

theorem remaining_lt_of_fault (hfault : Fault x y) : y.remaining < x.remaining := by
  cases hfault with
  | connect _ hgiver | announce _ _ _ hgiver | describe _ _ hgiver =>
    simp only [remaining, hgiver, fail, Giver.remaining]
    omega
  | read _ htaker | start _ htaker | accept _ htaker | refuse _ htaker =>
    simp only [remaining, htaker, breakOff, Taker.remaining]
    omega

theorem Run.head {z : Exchange} (hstep : Step x y) (hrun : Run y z) : Run x z := by
  induction hrun with
  | refl => exact .tail (.refl _) hstep
  | tail _ hlast ih => exact .tail ih hlast

/-- However far a handover has come, it can come to its end. -/
theorem reaches_terminal (x : Exchange) : ∃ y, Run x y ∧ y.Terminal := by
  induction hn : x.remaining using Nat.strongRecOn generalizing x with
  | ind n ih =>
    by_cases hterminal : x.Terminal
    · exact ⟨x, .refl x, hterminal⟩
    · obtain ⟨y, hact⟩ := Classical.not_forall_not.1 hterminal
      obtain ⟨z, hrun, hend⟩ := ih y.remaining (hn ▸ remaining_lt_of_act hact) y rfl
      exact ⟨z, hrun.head (.act hact), hend⟩

/-- A session that was transferred is served, and that is the end. -/
theorem terminal_of_transferred (hgiver : x.giver = .transferred) (htaker : x.Serves .taker) : x.Terminal := by
  obtain ⟨connection, settings, hserving⟩ := serves_taker.1 htaker
  intro y hact
  cases hact with
  | connect h | announce _ h | giveUp h | describe h | settle h | takeBack h =>
    rw [hgiver] at h
    cases h
  | read h | start _ h | accept h | refuse h =>
    rw [hserving] at h
    cases h

/-- The handover once the document is written. -/
def offered (d : DetachedConnection) (settings : SessionSettings) : Exchange :=
  { initial d settings with
    giver := .awaiting
    descriptorSent := true
    forth := ⟨withHeader (initial d settings).document, false⟩ }

/-- The handover once the taker has answered that it accepts. -/
def accepted (d : DetachedConnection) (settings : SessionSettings) : Exchange :=
  { offered d settings with
    taker := .serving (.adopt d) settings
    back := ⟨Handover.Verdict.packet .yes, true⟩ }

/-- The handover once the giver has read that. -/
def transferred (d : DetachedConnection) (settings : SessionSettings) : Exchange :=
  { accepted d settings with giver := .transferred, forth := (accepted d settings).forth.close }

theorem run_offered (hsize : (initial d settings).document.length ≤ maxDocumentLength) :
    Run (initial d settings) (offered d settings) :=
  .tail (.tail (.tail (.refl _) (.act (.connect rfl))) (.act (.announce 4 rfl hsize (by decide) (by decide))))
    (.act (.describe rfl))

theorem run_accepted (hsize : (initial d settings).document.length ≤ maxDocumentLength)
    (hread : HandoverState.read (initial d settings).state.write = .ok (initial d settings).state) :
    Run (initial d settings) (accepted d settings) := by
  have hbytes : (offered d settings).offer.first ++ (offered d settings).offer.rest =
      withHeader (initial d settings).document := List.take_append_drop _ _
  have hfirst : (offered d settings).offer.first ≠ [] := by
    intro hnil
    have hlength := congrArg List.length hnil
    simp [offer, offered, initial, withHeader, Handover.headerLength] at hlength
  have hreceive := Handover.Offer.receive_whole Nat.one_ne_zero hfirst hbytes hsize hread rfl
  have hready : (offered d settings).forth.Ready :=
    ((sound_initial d settings).run (run_offered hsize)).forth_ready not_false
  have hreads : (offered d settings).read = { offered d settings with taker := .starting (initial d settings).state } := by
    rw [Exchange.read, hreceive]
  have hstarting := Run.tail (run_offered hsize) (.act (.read rfl hready))
  rw [hreads] at hstarting
  exact .tail (.tail hstarting (.act (.start settings.size rfl))) (.act (.accept rfl))

/-- A handover in which nothing fails is a transfer: the taker serves with the connection as it was. -/
theorem undisturbed (hsize : (initial d settings).document.length ≤ maxDocumentLength)
    (hread : HandoverState.read (initial d settings).state.write = .ok (initial d settings).state) :
    Run (initial d settings) (transferred d settings) := by
  have hrun := run_accepted hsize hread
  have h := (sound_initial d settings).run hrun
  have hserves : (accepted d settings).Serves .taker := rfl
  rw [transferred, ← h.settle_of_serves hserves]
  exact .tail hrun (.act (.settle rfl (h.back_ready (.inl hserves))))

/-- **One side goes on with the session, and only one.** Whatever fails on the way, both sides never serve
the viewer, and when neither can go on with the handover exactly one of them does. A session counts as
transferred only when the taker serves it, and in the end whenever it does. The taker has neither read from
the viewer nor written to it unless its consent has been written; and a giver that failed is given back the
connection that it gave, stream and context. -/
theorem exactly_one_serves (hrun : Run (initial d settings) x) :
    ¬ (x.Serves .giver ∧ x.Serves .taker) ∧ (x.Terminal → ∃! side, x.Serves side) ∧
      (x.giver = .transferred → x.Serves .taker) ∧ (x.Terminal → (x.giver = .transferred ↔ x.Serves .taker)) ∧
      (∀ access, (.taker, access) ∈ x.uses → x.back.bytes = Handover.Verdict.packet .yes) ∧
      ∀ returned e, x.giver = .failed returned e → returned = d := by
  have h := (sound_initial d settings).run hrun
  refine ⟨fun hboth => h.not_both hboth.1 hboth.2, fun hterminal => ?_, h.handed, fun hterminal => ⟨h.handed, ?_⟩,
    fun access huse => ?_, h.returned⟩
  · rcases h.end_of_terminal hterminal with ⟨-, hserves⟩ | ⟨hserves, -⟩
    · refine ⟨.taker, hserves, ?_⟩
      rintro (_ | _) hother
      · exact absurd hserves (h.not_both hother)
      · rfl
    · refine ⟨.giver, hserves, ?_⟩
      rintro (_ | _) hother
      · rfl
      · exact absurd hother (h.not_both hserves)
  · intro hserves
    rcases h.end_of_terminal hterminal with ⟨hgiver, -⟩ | ⟨hother, -⟩
    · exact hgiver
    · exact absurd hserves (h.not_both hother)
  · obtain ⟨connection, settings, htaker⟩ := serves_taker.1 (h.used .taker access huse)
    have hback : x.back = ⟨_, true⟩ := h.answered htaker
    rw [hback]

/-- A viewer of whose next frame one byte was read. -/
def idleViewer : DetachedConnection := ⟨{}, ⟨"ada", none, ⟨0, 0⟩, [0]⟩⟩

def smallSession : SessionSettings := ⟨⟨640, 480⟩, .raw, true, 7⟩

/-- The session is transferred, and the taker sends the first update. -/
theorem exactly_one_serves_transferred :
    ∃ x, Run (initial idleViewer smallSession) x ∧ x.Terminal ∧ x.giver = .transferred ∧
      x.uses = [(.taker, .write)] ∧ x.back.bytes = Handover.Verdict.packet .yes ∧ ∃! side, x.Serves side := by
  have hsize : (initial idleViewer smallSession).document.length ≤ maxDocumentLength := by decide +kernel
  have hread : HandoverState.read (initial idleViewer smallSession).state.write =
      .ok (initial idleViewer smallSession).state := by
    apply Document.Json.read_write rfl
    · decide +kernel
    · decide +kernel
  have hserver : (transferred idleViewer smallSession).server .taker = some (.adopt idleViewer) := rfl
  have hrun := (undisturbed hsize hread).tail (.use (.write hserver))
  obtain ⟨-, hone, hserves, -, hused, -⟩ := exactly_one_serves hrun
  have hterminal := terminal_of_transferred rfl (hserves rfl)
  exact ⟨_, hrun, hterminal, rfl, rfl, hused .write (List.mem_singleton.2 rfl), hone hterminal⟩

end Exchange

end RemoteDesktop
