import RemoteDesktop.Server.Lifecycle
import RemoteDesktop.Server.Listener
import Mathlib.Data.List.Nodup

/-!
# Every connection lives a whole life

What has happened to a connection is known from where its task stands (`Task.Phase.Past`), and every action of the
task keeps it so (`Task.Step.past`). A listener adds what keeps connections apart: each that is under way has a
number of its own, because numbers are given away once, and the count of connections is that of the tasks
(`Listener.Sound`).

Main statement: `Listener.lives_are_whole`.
-/

namespace RemoteDesktop

open Lifecycle

/-! ### The task of a connection -/

namespace Task

/-- What has happened to the connection whose task stands there. -/
def Phase.Past (id : ConnectionId) (history : List Happening) : Phase → Prop
  | .spawned => history = []
  | .accepting => history = [.entering id .accepting]
  | .issued path => history = [.entering id .accepting, .reported (.credentialIssued id path)]
  | .authenticating path | .failed path _ => history = .entering id .accepting :: loginBegins id path
  | .authenticated path => history = .entering id .accepting :: (loginBegins id path ++ [.loggedIn id])
  | .starting | .started | .entered | .checked =>
    ∃ login, LoggedIn id login ∧ history = .entering id .accepting :: login
  | .announced =>
    ∃ login, LoggedIn id login ∧ history = .entering id .accepting :: (login ++ [.entering id .serving])
  | .serving | .departing | .ended _ | .left _ =>
    ∃ course, Course id course ∧ history = .entering id .accepting :: course
  | .closing _ =>
    ∃ course, Course id course ∧ history = .entering id .accepting :: (course ++ [.entering id .closing])
  | .closed =>
    ∃ course reason, Course id course ∧
      history = .entering id .accepting :: (course ++ [.entering id .closing, .reported (.closed id reason)])
  | .idle => Lifecycle id history

variable {stopping : Stopping} {t t' : Task} {happened history : List Happening}

/-- An action happens to the connection of its task. -/
theorem Step.id_eq (h : Step stopping t happened t') : t'.id = t.id ∧ ∀ x ∈ happened, x.id = t.id := by
  cases h <;> simp [inPhase, Happening.entering, Happening.id, ServerEvent.id]

/-- The record is dealt with after the login. -/
theorem past_loggedIn {path : String} {removal : List Happening} (hremoval : Removal t.id path removal)
    (hpast : Phase.Past t.id history (.authenticated path)) : Phase.Past t.id (history ++ removal) .starting := by
  refine ⟨_, .intro hremoval, ?_⟩
  rw [show history = _ from hpast]
  simp

/-- The record is dealt with after a login that failed. -/
theorem past_refused {path : String} {reason : CloseReason} {removal : List Happening}
    (hremoval : Removal t.id path removal) (hpast : Phase.Past t.id history (.failed path reason)) :
    Phase.Past t.id (history ++ removal) (.left reason) := by
  refine ⟨_, .refused hremoval, ?_⟩
  rw [show history = _ from hpast]
  rfl

/-- **An action of a task adds to the past what it should.** -/
theorem Step.past (h : Step stopping t happened t') (hpast : t.phase.Past t.id history) :
    t'.phase.Past t.id (history ++ happened) := by
  cases h with
  | accept hphase | issue _ hphase | authenticate hphase | loginSucceeds hphase =>
    rw [hphase] at hpast
    rw [show history = _ from hpast]
    rfl
  | issueFails _ hphase =>
    rw [hphase] at hpast
    rw [show history = _ from hpast]
    exact ⟨[], .unissued, rfl⟩
  | free hphase =>
    rw [hphase] at hpast
    exact past_loggedIn .freed hpast
  | freeFails hphase =>
    rw [hphase] at hpast
    exact past_loggedIn .kept hpast
  | freeFailed hphase =>
    rw [hphase] at hpast
    exact past_refused .freed hpast
  | freeFailedFails hphase =>
    rw [hphase] at hpast
    exact past_refused .kept hpast
  | startFails _ hphase =>
    rw [hphase] at hpast
    obtain ⟨login, hlogin, rfl⟩ := hpast
    exact ⟨login, .unstarted hlogin, List.append_nil _⟩
  | announce hphase =>
    rw [hphase] at hpast
    obtain ⟨login, hlogin, rfl⟩ := hpast
    exact ⟨login, hlogin, rfl⟩
  | serve username peer size hphase =>
    rw [hphase] at hpast
    obtain ⟨login, hlogin, rfl⟩ := hpast
    exact ⟨_, .served username peer size hlogin, by rw [List.cons_append, List.append_assoc]; rfl⟩
  | close hphase =>
    rw [hphase] at hpast
    obtain ⟨course, hcourse, rfl⟩ := hpast
    exact ⟨course, hcourse, rfl⟩
  | reportClosed hphase =>
    rw [hphase] at hpast
    obtain ⟨course, hcourse, rfl⟩ := hpast
    exact ⟨course, _, hcourse, by rw [List.cons_append, List.append_assoc]; rfl⟩
  | rest hphase =>
    rw [hphase] at hpast
    obtain ⟨course, reason, hcourse, rfl⟩ := hpast
    change Lifecycle t.id _
    rw [List.cons_append, List.append_assoc]
    exact .admitted reason hcourse
  -- nothing happens, and the task stands where the past is the same
  | loginFails _ hphase | loginStops _ hphase | start hphase | enter _ hphase | check hphase | finish _ hphase
  | obey hphase | depart hphase | resume hphase | departed _ hphase | remove _ hphase =>
    rw [hphase] at hpast
    rw [List.append_nil]
    exact hpast
  | useGrant _ =>
    rw [List.append_nil]
    exact hpast

/-- What happens before the end is the beginning of a life. -/
theorem prefix_of_course {id : ConnectionId} {course : List Happening} (hcourse : Course id course)
    {history : List Happening} (hfront : history <+: .entering id .accepting :: course) :
    ∃ life, Lifecycle id life ∧ history <+: life := by
  refine ⟨_, .admitted .shutdown hcourse, hfront.trans ?_⟩
  rw [← List.cons_append]
  exact List.prefix_append _ _

/-- The past of a connection is the beginning of a life. -/
theorem Phase.Past.front {id : ConnectionId} {phase : Phase} (h : phase.Past id history) :
    ∃ life, Lifecycle id life ∧ history <+: life := by
  cases phase with
  | spawned => exact prefix_of_course .unissued ⟨_, congrArg (· ++ _) h⟩
  | accepting => exact prefix_of_course .unissued ⟨[], congrArg (· ++ _) h⟩
  | issued path | authenticating path | failed path =>
    have hremoval : Removal id path [.reported (.credentialFreed id path)] := .freed
    exact prefix_of_course (.refused hremoval) ⟨_, congrArg (· ++ _) h⟩
  | authenticated path =>
    have hremoval : Removal id path [.reported (.credentialFreed id path)] := .freed
    refine prefix_of_course (.unstarted (.intro hremoval)) ?_
    rw [show history = _ from h]
    simp
  | starting | started | entered | checked =>
    obtain ⟨login, hlogin, rfl⟩ := h
    exact prefix_of_course (.unstarted hlogin) (List.prefix_refl _)
  | announced =>
    obtain ⟨login, hlogin, rfl⟩ := h
    refine prefix_of_course (.served "" none ⟨0, 0⟩ hlogin) ?_
    simp [Lifecycle.serving]
  | serving | departing | ended | left =>
    obtain ⟨course, hcourse, rfl⟩ := h
    exact prefix_of_course hcourse (List.prefix_refl _)
  | closing =>
    obtain ⟨course, hcourse, rfl⟩ := h
    exact ⟨_, .admitted .shutdown hcourse, by simp [ending]⟩
  | closed =>
    obtain ⟨course, reason, hcourse, rfl⟩ := h
    exact ⟨_, .admitted reason hcourse, by simp [ending]⟩
  | idle => exact ⟨history, h, List.prefix_refl _⟩

end Task

/-! ### What happens to one connection -/

namespace Happening

variable {id other : ConnectionId} {history happened : List Happening}

theorem about_append_of_eq (h : ∀ x ∈ happened, x.id = id) :
    about id (history ++ happened) = about id history ++ happened := by
  rw [about, List.filter_append, List.filter_eq_self.2 fun x hx => decide_eq_true (h x hx)]
  rfl

theorem about_append_of_ne (h : ∀ x ∈ happened, x.id = id) (hother : other ≠ id) :
    about other (history ++ happened) = about other history := by
  have hnone : happened.filter (·.id = other) = [] :=
    List.filter_eq_nil_iff.2 fun x hx => by simpa [h x hx] using hother.symm
  rw [about, List.filter_append, hnone, List.append_nil]
  rfl

/-- What is told of one connection. -/
theorem about_events (id : ConnectionId) (history : List Happening) :
    ServerEvent.about id (history.filterMap event?) = (about id history).filterMap event? := by
  rw [ServerEvent.about, about, List.filter_filterMap, List.filterMap_filter]
  refine List.filterMap_congr fun x _ => ?_
  cases x with
  | reported event =>
    by_cases hid : event.id = id
    · simp [Happening.id, event?, hid]
    · simp [Happening.id, event?, hid]
  | loggedIn _ | recordKept _ _ => simp [event?]

end Happening

namespace Listener

open Happening (about)

variable {limit : Nat} {l m : Listener}

/-! ### Numbers -/

/-- The first `n` numbers, latest first. -/
def numbersUpTo : Nat → List ConnectionId
  | 0 => []
  | n + 1 => (1 + UInt64.ofNat n) :: numbersUpTo n

theorem mem_numbersUpTo {n : Nat} {id : ConnectionId} :
    id ∈ numbersUpTo n ↔ ∃ k < n, id = 1 + UInt64.ofNat k := by
  induction n with
  | zero => simp [numbersUpTo]
  | succ n ih =>
    rw [numbersUpTo, List.mem_cons, ih]
    constructor
    · rintro (rfl | ⟨k, hk, rfl⟩)
      · exact ⟨n, Nat.lt_succ_self n, rfl⟩
      · exact ⟨k, Nat.lt_succ_of_lt hk, rfl⟩
    · rintro ⟨k, hk, rfl⟩
      rcases Nat.lt_succ_iff_lt_or_eq.1 hk with hk | rfl
      · exact .inr ⟨k, hk, rfl⟩
      · exact .inl rfl

/-- As long as the numbers last, none is given away twice. -/
theorem nodup_numbersUpTo {n : Nat} (hn : n ≤ UInt64.size) : (numbersUpTo n).Nodup := by
  induction n with
  | zero => exact List.nodup_nil
  | succ n ih =>
    refine List.nodup_cons.2 ⟨?_, ih (Nat.le_of_succ_le hn)⟩
    rw [mem_numbersUpTo]
    rintro ⟨k, hk, hsame⟩
    have hmod := congrArg UInt64.toNat (UInt64.add_right_inj 1 |>.1 hsame)
    rw [UInt64.toNat_ofNat_of_lt' (Nat.lt_of_succ_le hn),
      UInt64.toNat_ofNat_of_lt' (Nat.lt_trans hk (Nat.lt_of_succ_le hn))] at hmod
    omega

/-! ### The count of connections -/

/-- The count and the numbers at every moment of a run. -/
structure Sound (limit : Nat) (l : Listener) : Prop where
  limit_eq : l.limit = limit
  counted : l.active = l.tasks.length
  within : l.active ≤ limit
  room : ∀ id, l.acceptor = .admitting id → l.active < limit
  nextId : l.nextId = 1 + UInt64.ofNat l.numbers.length
  numbers : l.numbers = numbersUpTo l.numbers.length

theorem sound_initial (limit : Nat) : Sound limit (initial limit) where
  limit_eq := rfl
  counted := rfl
  within := Nat.zero_le _
  room _ h := nomatch h
  nextId := rfl
  numbers := rfl

namespace Sound

/-- Nothing of it changes, or the acceptor goes on without a connection. -/
theorem keep (h : Sound limit l) (hlimit : m.limit = l.limit) (hactive : m.active = l.active)
    (htasks : m.tasks.length = l.tasks.length) (hroom : ∀ id, m.acceptor = .admitting id → l.active < limit)
    (hnext : m.nextId = l.nextId) (hnumbers : m.numbers = l.numbers) : Sound limit m where
  limit_eq := hlimit.trans h.limit_eq
  counted := by rw [hactive, htasks, h.counted]
  within := hactive ▸ h.within
  room id hid := hactive ▸ hroom id hid
  nextId := by rw [hnext, hnumbers, h.nextId]
  numbers := by rw [hnumbers, ← h.numbers]

theorem number (h : Sound limit l) : Sound limit l.number where
  limit_eq := h.limit_eq
  counted := h.counted
  within := h.within
  room := h.room
  nextId := by
    change l.nextId + 1 = 1 + UInt64.ofNat (l.numbers.length + 1)
    rw [h.nextId, UInt64.ofNat_add, UInt64.add_assoc]
    rfl
  numbers := by
    change l.nextId :: l.numbers = (1 + UInt64.ofNat l.numbers.length) :: numbersUpTo l.numbers.length
    rw [h.nextId, ← h.numbers]

theorem step (h : Sound limit l) (hstep : Step l m) : Sound limit m := by
  have hone (before after : List Task) (t t' : Task) :
      (before ++ t' :: after).length = (before ++ t :: after).length := by
    rw [List.length_append, List.length_append, List.length_cons, List.length_cons]
  cases hstep with
  | connect _ => exact h.number.keep rfl rfl rfl (fun _ hid => nomatch hid) rfl rfl
  | adopt => exact h.number.keep rfl rfl rfl h.room rfl rfl
  | reject _ _ => exact h.keep rfl rfl rfl (fun _ hid => nomatch hid) rfl rfl
  | quit _ _ => exact h.keep rfl rfl rfl (fun _ hid => nomatch hid) rfl rfl
  | allow _ hroom => exact h.keep rfl rfl rfl (fun _ _ => h.limit_eq ▸ hroom) rfl rfl
  | welcome hadmitting =>
    exact {
      limit_eq := h.limit_eq
      counted := by
        change l.active + 1 = (l.tasks ++ [_]).length
        rw [List.length_append, h.counted]
        rfl
      within := h.room _ hadmitting
      room := fun _ hid => nomatch hid
      nextId := h.nextId
      numbers := h.numbers }
  | task htasks _ => exact h.keep rfl rfl (by rw [htasks]; exact hone _ _ _ _) h.room rfl rfl
  | finish htasks _ =>
    have hcount := h.counted
    have hwithin := h.within
    rw [htasks, List.length_append, List.length_cons] at hcount
    exact {
      limit_eq := h.limit_eq
      counted := by
        simp only [List.length_append]
        omega
      within := Nat.le_trans (Nat.sub_le _ _) h.within
      room := fun id hid => Nat.lt_of_le_of_lt (Nat.sub_le _ _) (h.room id hid)
      nextId := h.nextId
      numbers := h.numbers }
  | announce _ => exact h.keep rfl rfl rfl h.room rfl rfl
  | lock _ => exact h.keep rfl rfl (List.length_map _) h.room rfl rfl
  | tell _ htasks _ => exact h.keep rfl rfl (by rw [htasks]; exact hone _ _ _ _) h.room rfl rfl
  | unlock _ _ => exact h.keep rfl rfl rfl h.room rfl rfl
  | find _ htasks _ => exact h.keep rfl rfl (by rw [htasks]; exact hone _ _ _ _) h.room rfl rfl
  | ask htasks _ => exact h.keep rfl rfl (by rw [htasks]; exact hone _ _ _ _) h.room rfl rfl

theorem run (h : Sound limit l) (hrun : Run l m) : Sound limit m := by
  induction hrun with
  | refl => exact h
  | tail _ hstep ih => exact ih.step hstep

end Sound

/-! ### Lives -/

/-- Where each task stands, and for which connection. -/
def standing (l : Listener) : List (ConnectionId × Task.Phase) := l.tasks.map fun t => (t.id, t.phase)

theorem busy_eq (l : Listener) : l.busy = l.acceptor.id?.toList ++ l.standing.map Prod.fst := by
  rw [busy, standing, List.map_map]
  rfl

/-- No two of acceptor and tasks are busy with the same connection, and each connection has the past that it should
have. -/
structure Apart (l : Listener) : Prop where
  nodup : l.busy.Nodup
  numbered : ∀ id ∈ l.busy, id ∈ l.numbers ∧ id ∉ l.adopted
  adopted : ∀ id ∈ l.adopted, id ∈ l.numbers
  /-- The acceptor has reported nothing of the connection that it is busy with. -/
  untold : ∀ id, l.acceptor.id? = some id → about id l.happenings = []
  past : ∀ place ∈ l.standing, place.2.Past place.1 (about place.1 l.happenings)
  /-- A connection that nobody is busy with any more has lived a whole life. -/
  whole : ∀ id ∈ l.numbers, id ∉ l.adopted → id ∉ l.busy → Lifecycle id (about id l.happenings)
  foreign : ∀ id, id ∉ l.numbers ∨ id ∈ l.adopted → about id l.happenings = []

theorem apart_initial (limit : Nat) : Apart (initial limit) where
  nodup := List.nodup_nil
  numbered _ h := nomatch h
  adopted _ h := nomatch h
  untold _ h := nomatch h
  past _ h := nomatch h
  whole _ h := nomatch h
  foreign _ _ := rfl

namespace Apart

/-- Only other things change. -/
theorem keep (h : Apart l) (hacceptor : m.acceptor.id? = l.acceptor.id?) (hstanding : m.standing = l.standing)
    (hhappenings : m.happenings = l.happenings) (hnumbers : m.numbers = l.numbers) (hadopted : m.adopted = l.adopted) :
    Apart m := by
  have hbusy : m.busy = l.busy := by rw [busy_eq, busy_eq, hacceptor, hstanding]
  constructor
  · exact hbusy ▸ h.nodup
  · rw [hbusy, hnumbers, hadopted]
    exact h.numbered
  · rw [hnumbers, hadopted]
    exact h.adopted
  · rw [hacceptor, hhappenings]
    exact h.untold
  · rw [hstanding, hhappenings]
    exact h.past
  · rw [hbusy, hnumbers, hadopted, hhappenings]
    exact h.whole
  · rw [hnumbers, hadopted, hhappenings]
    exact h.foreign

/-- One task changes in something else than where it stands. -/
theorem keepTask (h : Apart l) {before after : List Task} {t t' : Task} (htasks : l.tasks = before ++ t :: after)
    (hid : t'.id = t.id) (hphase : t'.phase = t.phase) : Apart { l with tasks := before ++ t' :: after } := by
  refine h.keep rfl ?_ rfl rfl rfl
  simp only [standing, htasks, List.map_append, List.map_cons, hid, hphase]

/-- The next number is given to a connection that the acceptor is busy with from now on. -/
theorem connect (h : Apart l) (hacceptor : l.acceptor = .waiting) (hnew : l.nextId ∉ l.numbers) :
    Apart { l.number with acceptor := .numbered l.nextId } := by
  have hbusy : Listener.busy { l.number with acceptor := .numbered l.nextId } = l.nextId :: l.busy := by
    rw [busy_eq, busy_eq, hacceptor]
    rfl
  have hfresh : ∀ id ∈ l.numbers, id ≠ l.nextId := fun id hid hsame => hnew (hsame ▸ hid)
  constructor
  · rw [hbusy]
    exact List.nodup_cons.2 ⟨fun hmem => hnew (h.numbered _ hmem).1, h.nodup⟩
  · rw [hbusy]
    intro id hid
    rcases List.mem_cons.1 hid with rfl | hid
    · exact ⟨List.mem_cons_self, fun hmem => hnew (h.adopted _ hmem)⟩
    · exact ⟨List.mem_cons_of_mem _ (h.numbered id hid).1, (h.numbered id hid).2⟩
  · exact fun id hid => List.mem_cons_of_mem _ (h.adopted id hid)
  · intro id hid
    obtain rfl := Option.some_inj.1 hid
    exact h.foreign _ (.inl hnew)
  · exact h.past
  · rw [hbusy]
    intro id hid hadopted hidle
    obtain ⟨hne, hidle⟩ := not_or.1 (mt List.mem_cons.2 hidle)
    exact h.whole id ((List.mem_cons.1 hid).resolve_left hne) hadopted hidle
  · rintro id (hid | hid)
    · exact h.foreign id (.inl fun hmem => hid (List.mem_cons_of_mem _ hmem))
    · exact h.foreign id (.inr hid)

/-- The next number is given to a session taken over. -/
theorem adopt (h : Apart l) (hnew : l.nextId ∉ l.numbers) :
    Apart { l.number with adopted := l.nextId :: l.adopted } := by
  constructor
  · exact h.nodup
  · intro id hid
    refine ⟨List.mem_cons_of_mem _ (h.numbered id hid).1, fun hmem => ?_⟩
    rcases List.mem_cons.1 hmem with rfl | hmem
    · exact hnew (h.numbered _ hid).1
    · exact (h.numbered id hid).2 hmem
  · intro id hid
    rcases List.mem_cons.1 hid with rfl | hid
    · exact List.mem_cons_self
    · exact List.mem_cons_of_mem _ (h.adopted id hid)
  · exact h.untold
  · exact h.past
  · intro id hid hadopted hidle
    obtain ⟨hne, hadopted⟩ := not_or.1 (mt List.mem_cons.2 hadopted)
    exact h.whole id ((List.mem_cons.1 hid).resolve_left hne) hadopted hidle
  · rintro id (hid | hid)
    · exact h.foreign id (.inl fun hmem => hid (List.mem_cons_of_mem _ hmem))
    · rcases List.mem_cons.1 hid with rfl | hid
      · exact h.foreign _ (.inl hnew)
      · exact h.foreign id (.inr hid)

/-- What happens to a connection that somebody is busy with is not told of another. -/
theorem elsewhere (h : Apart l) {id : ConnectionId} (hid : id ∈ l.busy) {happened : List Happening}
    (hhappened : ∀ x ∈ happened, x.id = id) :
    (∀ other, other ∉ l.numbers ∨ other ∈ l.adopted → about other (l.happenings ++ happened) = []) ∧
      ∀ other ∈ l.numbers, other ∉ l.adopted → other ∉ l.busy →
        Lifecycle other (about other (l.happenings ++ happened)) := by
  constructor
  · intro other hother
    have hne : other ≠ id := by
      rintro rfl
      exact hother.elim (absurd (h.numbered _ hid).1) (fun hadopted => (h.numbered _ hid).2 hadopted)
    rw [Happening.about_append_of_ne hhappened hne]
    exact h.foreign other hother
  · intro other hother hadopted hidle
    have hne : other ≠ id := by
      rintro rfl
      exact hidle hid
    rw [Happening.about_append_of_ne hhappened hne]
    exact h.whole other hother hadopted hidle

/-- A connection beyond the limit is closed. -/
theorem reject (h : Apart l) {id : ConnectionId} (hacceptor : l.acceptor = .numbered id) :
    Apart { l with acceptor := .waiting, happenings := l.happenings ++ [.reported (.closed id .connectionLimit)] } := by
  have hbusy : l.busy = id :: l.standing.map Prod.fst := by
    rw [busy_eq, hacceptor]
    rfl
  have hlater : Listener.busy { l with
      acceptor := .waiting, happenings := l.happenings ++ [.reported (.closed id .connectionLimit)] } =
        l.standing.map Prod.fst := by
    rw [busy_eq]
    rfl
  have hid : id ∈ l.busy := hbusy ▸ List.mem_cons_self
  have hclosed : ∀ x ∈ [Happening.reported (.closed id .connectionLimit)], x.id = id := by
    intro x hx
    rw [List.mem_singleton.1 hx]
    rfl
  obtain ⟨hforeign, hwhole⟩ := h.elsewhere hid hclosed
  have hnodup := hbusy ▸ h.nodup
  constructor
  · rw [hlater]
    exact (List.nodup_cons.1 hnodup).2
  · rw [hlater]
    exact fun other hother => h.numbered other (hbusy ▸ List.mem_cons_of_mem _ hother)
  · exact h.adopted
  · exact fun _ hnone => nomatch hnone
  · intro place hplace
    have hne : place.1 ≠ id := by
      rintro rfl
      exact (List.nodup_cons.1 hnodup).1 (List.mem_map_of_mem hplace)
    simp only [Happening.about_append_of_ne hclosed hne]
    exact h.past place hplace
  · rw [hlater]
    intro other hother hadopted hidle
    by_cases hsame : other = id
    · subst hsame
      have huntold := h.untold other (by rw [hacceptor]; rfl)
      simp only [Happening.about_append_of_eq hclosed, huntold]
      exact .rejected
    · refine hwhole other hother hadopted ?_
      rw [hbusy]
      exact not_or.2 ⟨hsame, hidle⟩ ∘ List.mem_cons.1
  · exact hforeign

/-- A task begins for the connection that the acceptor is busy with. -/
theorem welcome (h : Apart l) {id : ConnectionId} (hacceptor : l.acceptor = .admitting id) (active : Nat) :
    Apart { l with acceptor := .waiting, active, tasks := l.tasks ++ [{ id }] } := by
  have hperm : (Listener.busy { l with acceptor := .waiting, active, tasks := l.tasks ++ [{ id }] }).Perm l.busy := by
    rw [busy, busy, hacceptor]
    simp only [Acceptor.id?, Option.toList_none, Option.toList_some, List.nil_append, List.map_append, List.map_cons,
      List.map_nil]
    exact List.perm_append_comm
  constructor
  · exact hperm.nodup_iff.2 h.nodup
  · exact fun other hother => h.numbered other (hperm.mem_iff.1 hother)
  · exact h.adopted
  · exact fun _ hnone => nomatch hnone
  · intro place hplace
    rw [standing, List.map_append] at hplace
    rcases List.mem_append.1 hplace with hplace | hplace
    · exact h.past place hplace
    · rw [List.mem_singleton.1 hplace]
      exact h.untold id (by rw [hacceptor]; rfl)
  · exact fun other hother hadopted hidle => h.whole other hother hadopted (mt hperm.mem_iff.2 hidle)
  · exact h.foreign

/-- A task goes on. -/
theorem act (h : Apart l) {before after : List Task} {t t' : Task} {happened : List Happening}
    (htasks : l.tasks = before ++ t :: after) (hstep : Task.Step l.stopping t happened t') :
    Apart { l with tasks := before ++ t' :: after, happenings := l.happenings ++ happened } := by
  obtain ⟨hid, hhappened⟩ := hstep.id_eq
  have hbusy : Listener.busy { l with tasks := before ++ t' :: after, happenings := l.happenings ++ happened } =
      l.busy := by
    simp only [busy, htasks, List.map_append, List.map_cons, hid]
  have hmem : t.id ∈ l.busy := by
    rw [busy, htasks]
    simp
  obtain ⟨hforeign, hwhole⟩ := h.elsewhere hmem hhappened
  -- nobody else is busy with the connection
  have hnodup := h.nodup
  simp only [busy, htasks, List.map_append, List.map_cons] at hnodup
  have hothers : ∀ id, (l.acceptor.id? = some id ∨ id ∈ before.map (·.id) ∨ id ∈ after.map (·.id)) → id ≠ t.id := by
    rintro id hother rfl
    have hperm := List.perm_middle.nodup_iff.1 ((List.append_assoc _ _ _).symm ▸ hnodup)
    refine (List.nodup_cons.1 hperm).1 ?_
    simp only [List.mem_append, Option.mem_toList]
    tauto
  constructor
  · rw [hbusy]
    exact h.nodup
  · rw [hbusy]
    exact h.numbered
  · exact h.adopted
  · intro id hacceptor
    simp only [Happening.about_append_of_ne hhappened (hothers id (.inl hacceptor))]
    exact h.untold id hacceptor
  · intro place hplace
    have hpast (s : Task) (hs : s ∈ l.tasks) : s.phase.Past s.id (about s.id l.happenings) :=
      h.past (s.id, s.phase) (List.mem_map_of_mem hs)
    obtain ⟨s, hs, rfl⟩ := List.mem_map.1 hplace
    rcases List.mem_append.1 hs with hs | hs
    · simp only [Happening.about_append_of_ne hhappened (hothers s.id (.inr (.inl (List.mem_map_of_mem hs))))]
      exact hpast s (by rw [htasks]; simp [hs])
    · rcases List.mem_cons.1 hs with rfl | hs
      · simp only [hid, Happening.about_append_of_eq hhappened]
        exact hstep.past (hpast t (by rw [htasks]; simp))
      · simp only [Happening.about_append_of_ne hhappened (hothers s.id (.inr (.inr (List.mem_map_of_mem hs))))]
        exact hpast s (by rw [htasks]; simp [hs])
  · rw [hbusy]
    exact hwhole
  · exact hforeign

/-- A task is finished. -/
theorem finish (h : Apart l) {before after : List Task} {t : Task} (htasks : l.tasks = before ++ t :: after)
    (hphase : t.phase = .idle) (active : Nat) : Apart { l with tasks := before ++ after, active } := by
  have hperm : l.busy.Perm (t.id :: Listener.busy { l with tasks := before ++ after, active }) := by
    simp only [busy, htasks, List.map_append, List.map_cons]
    rw [← List.append_assoc, ← List.append_assoc]
    exact List.perm_middle
  have hlife : Lifecycle t.id (about t.id l.happenings) := by
    have hpast := h.past (t.id, t.phase) (List.mem_map_of_mem (by rw [htasks]; simp))
    simp only [hphase] at hpast
    exact hpast
  constructor
  · exact (List.nodup_cons.1 (hperm.nodup_iff.1 h.nodup)).2
  · exact fun other hother => h.numbered other (hperm.mem_iff.2 (List.mem_cons_of_mem _ hother))
  · exact h.adopted
  · exact h.untold
  · intro place hplace
    refine h.past place ?_
    simp only [standing, htasks, List.map_append, List.map_cons, List.mem_append, List.mem_cons] at hplace ⊢
    tauto
  · intro other hother hadopted hidle
    by_cases hsame : other = t.id
    · rw [hsame]
      exact hlife
    · exact h.whole other hother hadopted fun hmem =>
        hidle ((List.mem_cons.1 (hperm.mem_iff.1 hmem)).resolve_left hsame)
  · exact h.foreign

/-- **No action mixes two connections up**, as long as no number is given away twice. -/
theorem step (h : Apart l) (hstep : Step l m) (hnumbers : m.numbers.Nodup) : Apart m := by
  cases hstep with
  | connect hacceptor => exact h.connect hacceptor (List.nodup_cons.1 hnumbers).1
  | adopt => exact h.adopt (List.nodup_cons.1 hnumbers).1
  | reject hacceptor _ => exact h.reject hacceptor
  | allow hacceptor _ => exact h.keep (by rw [hacceptor]; rfl) rfl rfl rfl rfl
  | welcome hacceptor => exact h.welcome hacceptor _
  | quit hacceptor _ => exact h.keep (by rw [hacceptor]; rfl) rfl rfl rfl rfl
  | task htasks hstep => exact h.act htasks hstep
  | finish htasks hphase => exact h.finish htasks hphase _
  | announce _ => exact h.keep rfl rfl rfl rfl rfl
  | lock _ => exact h.keep rfl (by simp [standing, mark]) rfl rfl rfl
  | tell _ htasks _ => exact h.keepTask htasks rfl rfl
  | unlock _ _ => exact h.keep rfl rfl rfl rfl rfl
  | find _ htasks _ => exact h.keepTask htasks rfl rfl
  | ask htasks _ => exact h.keepTask htasks rfl rfl

end Apart

/-- Numbers that were given away stay so. -/
theorem Step.numbers_suffix (h : Step l m) : l.numbers <:+ m.numbers := by
  cases h with
  | connect _ | adopt => exact List.suffix_cons _ _
  | _ => exact List.suffix_refl _

theorem Run.apart (hrun : Run l m) (h : Apart l) (hnumbers : m.numbers.Nodup) : Apart m := by
  induction hrun with
  | refl => exact h
  | tail _ hstep ih => exact (ih (hnumbers.sublist hstep.numbers_suffix.sublist)).step hstep hnumbers

/-! ### One connection -/

/-- A listener for one connection at a time, with the task of its first. -/
def only (stopping : Stopping) (t : Task) (happenings : List Happening) : Listener :=
  { limit := 1, nextId := 2, stopping, active := 1, tasks := [t], happenings, numbers := [1] }

theorem run_spawned : Run (initial 1) (only .no { id := 1 } []) := by
  have hconnect : Run (initial 1) _ := (Run.refl _).tail (.connect rfl)
  have hallow := hconnect.tail (.allow rfl (by decide))
  exact hallow.tail (.welcome rfl)

theorem Run.act {start : Listener} {stopping : Stopping} {t t' : Task} {history happened : List Happening}
    (hrun : Run start (only stopping t history)) (hstep : Task.Step stopping t happened t') :
    Run start (only stopping t' (history ++ happened)) :=
  hrun.tail (.task (show (only stopping t history).tasks = [] ++ t :: [] from rfl) hstep)

/-- What has happened to a connection whose session is served. -/
def servedHistory : List Happening :=
  .entering 1 .accepting :: (loginBegins 1 "sam" ++ [.loggedIn 1, .reported (.credentialFreed 1 "sam")] ++
    Lifecycle.serving 1 "ada" none ⟨640, 480⟩)

def servingTask : Task := { id := 1, phase := .serving, entered := true }

theorem run_serving : Run (initial 1) (only .no servingTask servedHistory) :=
  (((((((((run_spawned.act (.accept rfl)).act (.issue "sam" rfl)).act (.authenticate rfl)).act
    (.loginSucceeds rfl)).act (.free rfl)).act (.start rfl)).act (.enter rfl rfl)).act (.check rfl)).act
    (.announce rfl)).act (.serve "ada" none ⟨640, 480⟩ rfl)

/-! ### All connections -/

/-- **Every connection lives a whole life, and is counted.** In every run, the count of connections is the number of
tasks that have begun and not finished; it does not exceed the limit, and is zero when all tasks have finished. Among
the first 2^64 numbers none is given away twice, neither to a connection nor to a session taken over. What has
happened to a connection, and so what was told of it, is the beginning of one life; it is the whole life when neither
the acceptor nor a task is busy with the connection any more. -/
theorem lives_are_whole (hrun : Run (initial limit) l) :
    (l.active = l.tasks.length ∧ l.active ≤ limit ∧ (l.tasks = [] → l.active = 0)) ∧
      (∀ id, ServerEvent.about id l.events = (about id l.happenings).filterMap Happening.event?) ∧
      (l.numbers.length ≤ UInt64.size → l.numbers.Nodup ∧
        (∀ id ∈ l.numbers, id ∉ l.adopted → ∃ life, Lifecycle id life ∧ about id l.happenings <+: life ∧
          (id ∉ l.busy → about id l.happenings = life)) ∧
        ∀ id, id ∉ l.numbers ∨ id ∈ l.adopted → about id l.happenings = []) := by
  have hsound := (sound_initial limit).run hrun
  refine ⟨⟨hsound.counted, hsound.within, ?_⟩, fun id => Happening.about_events id l.happenings, fun hlength => ?_⟩
  · intro hnone
    rw [hsound.counted, hnone]
    rfl
  · have hnumbers : l.numbers.Nodup := by
      rw [hsound.numbers]
      exact nodup_numbersUpTo hlength
    have hapart := hrun.apart (apart_initial limit) hnumbers
    refine ⟨hnumbers, fun id hid hadopted => ?_, hapart.foreign⟩
    by_cases hbusy : id ∈ l.busy
    · rw [busy_eq, List.mem_append, Option.mem_toList] at hbusy
      rcases hbusy with hacceptor | htask
      · refine ⟨_, .rejected, ?_, fun hidle => absurd ?_ hidle⟩
        · rw [hapart.untold id hacceptor]
          exact List.nil_prefix
        · rw [busy_eq]
          exact List.mem_append_left _ (Option.mem_toList.2 hacceptor)
      · obtain ⟨⟨_, phase⟩, hplace, rfl⟩ := List.mem_map.1 htask
        obtain ⟨life, hlife, hfront⟩ := (hapart.past _ hplace).front
        refine ⟨life, hlife, hfront, fun hidle => absurd ?_ hidle⟩
        rw [busy_eq]
        exact List.mem_append_right _ htask
    · exact ⟨_, hapart.whole id hid hadopted hbusy, List.prefix_refl _, fun _ => rfl⟩

/-- The viewer leaves, and nobody is connected any more. -/
theorem lives_are_whole_served :
    ∃ l, Run (initial 1) l ∧ l.active = 0 ∧ l.busy = [] ∧ l.numbers = [1] ∧
      about 1 l.happenings = servedHistory ++ ending 1 .clientDisconnected ∧ Lifecycle 1 (about 1 l.happenings) := by
  have hidle := (((((run_serving.act (.finish .clientDisconnected rfl)).act (.remove rfl rfl)).act (.close rfl)).act
    (.reportClosed rfl)).act (.rest rfl))
  have hrun := hidle.tail (.finish (show Listener.tasks (only _ _ _) = [] ++ _ :: [] from rfl) rfl)
  obtain ⟨⟨-, -, hnone⟩, -, hlives⟩ := lives_are_whole hrun
  obtain ⟨-, hwhole, -⟩ := hlives (by decide)
  obtain ⟨life, hlife, -, hall⟩ := hwhole 1 (List.mem_singleton.2 rfl) List.not_mem_nil
  refine ⟨_, hrun, hnone rfl, rfl, rfl, by decide, ?_⟩
  rw [hall (by decide)]
  exact hlife

end Listener

end RemoteDesktop
