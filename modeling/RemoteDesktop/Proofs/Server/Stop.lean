import RemoteDesktop.Proofs.Server.Lifecycle

/-!
# Which sessions are told to stop

A session hears that the server stops from the caller who goes through the table, or from its own task, which looks
for itself once the session is in the table; between the two no session is missed (`Task.Warned`). But the command
to stop has to find room in the mailbox. It does as long as the session was told to leave fewer times than its
mailbox has places (`stop_reaches`); otherwise it may be lost, and then the session serves on (`stop_is_lost`).

Main statement: `Listener.stop_reaches`.
-/

namespace RemoteDesktop

/-! ### Mailboxes -/

namespace Mailbox

variable {m m' : Mailbox} {command : SessionCommand}

/-- How many commands to leave take up a place, or wait for one. -/
def leaves (m : Mailbox) : Nat := m.commands.count .leave + m.granted + m.waiting

theorem leaves_tryStop (m : Mailbox) : m.tryStop.leaves = m.leaves := by
  rw [tryStop]
  split
  · simp [leaves]
  · rfl

theorem mem_tryStop (h : command ∈ m.commands) : command ∈ m.tryStop.commands := by
  rw [tryStop]
  split
  · exact List.mem_append_left _ h
  · exact h

/-- The command to stop finds room, unless commands to leave take all of it. -/
theorem stop_mem_tryStop (h : m.leaves < capacity) : .stop ∈ m.tryStop.commands := by
  by_cases hstop : .stop ∈ m.commands
  · exact mem_tryStop hstop
  · have hall : m.commands.count .leave = m.commands.length := by
      refine List.count_eq_length.2 fun other hother => ?_
      cases other with
      | stop => exact absurd hother hstop
      | leave => rfl
    have hroom : m.HasRoom := by
      rw [leaves, hall] at h
      rw [HasRoom]
      omega
    rw [tryStop, if_pos hroom]
    exact List.mem_append_right _ (List.mem_singleton.2 rfl)

theorem leaves_sendLeave (m : Mailbox) : m.sendLeave.leaves = m.leaves + 1 := by
  rw [sendLeave]
  split
  · simp only [leaves, List.count_append, List.count_singleton_self]
    omega
  · simp only [leaves]
    omega

theorem mem_sendLeave (h : command ∈ m.commands) : command ∈ m.sendLeave.commands := by
  rw [sendLeave]
  split
  · exact List.mem_append_left _ h
  · exact h

/-- What is left when a command was read. -/
theorem take?_eq_some (h : m.take? = some (command, m')) :
    m.commands = command :: m'.commands ∧ m'.granted + m'.waiting = m.granted + m.waiting := by
  rw [take?] at h
  split at h
  next => cases h
  next first rest hcommands =>
    obtain ⟨rfl, rfl⟩ := Prod.mk.inj (Option.some.inj h)
    rw [hcommands, taken]
    split
    next => exact ⟨rfl, rfl⟩
    next waiting hwaiting =>
      refine ⟨rfl, ?_⟩
      simp only [hwaiting]
      omega

theorem leaves_le_of_take? (h : m.take? = some (command, m')) : m'.leaves ≤ m.leaves := by
  obtain ⟨hcommands, hothers⟩ := take?_eq_some h
  have hcount := List.count_le_count_cons (a := SessionCommand.leave) (b := command) (l := m'.commands)
  rw [leaves, leaves, hcommands]
  omega

theorem leaves_useGrant (h : m.granted ≠ 0) : m.useGrant.leaves = m.leaves := by
  simp only [useGrant, leaves, List.count_append, List.count_singleton_self]
  omega

end Mailbox

/-! ### One session -/

/-- The caller who stops the server has begun to go through the table. -/
def Stopping.Walked : Stopping → Prop
  | .telling | .told => True
  | .no | .announced => False

theorem Stopping.Walked.begun {stopping : Stopping} (h : stopping.Walked) : stopping.begun = true := by
  cases stopping with
  | no | announced => exact absurd h not_false
  | telling | told => rfl

namespace Task

variable {stopping : Stopping} {t t' : Task} {happened : List Happening}

/-- A session in this phase is in the table. -/
def Phase.Tabled : Phase → Prop
  | .entered | .checked | .announced | .serving | .departing => True
  | _ => False

/-- The command to stop has reached the session, or is about to, or there was no room for it. -/
def Covered (t : Task) : Prop := t.due = true ∨ t.StopReached ∨ Mailbox.capacity ≤ t.asked

/-- What is true of every task at every moment. -/
structure Warned (stopping : Stopping) (t : Task) : Prop where
  /-- Nothing is in the mailbox that nobody has sent. -/
  leaves : t.mailbox.leaves ≤ t.asked
  tabled : t.phase.Tabled → t.entered = true
  covered : stopping.Walked → t.HasChecked → t.Covered
  undue : stopping = .told → t.due = false

theorem warned_spawned (stopping : Stopping) (id : ConnectionId) : Warned stopping { id } where
  leaves := Nat.le_refl _
  tabled h := absurd h not_false
  covered _ h := absurd h.1 not_false
  undue _ := rfl

/-- A session that serves no longer need not be told. -/
theorem Covered.of_past (h : t.PastSession) : t.Covered := .inr (.inl (.inr (.inr h)))

/-- A session that is told to stop has a command to stop, unless commands to leave take all places. -/
theorem reached_tryStop (h : t.mailbox.leaves ≤ t.asked) :
    .stop ∈ t.mailbox.tryStop.commands ∨ Mailbox.capacity ≤ t.asked := by
  by_cases hroom : Mailbox.capacity ≤ t.asked
  · exact .inr hroom
  · exact .inl (Mailbox.stop_mem_tryStop (by omega))

namespace Warned

/-- The task goes on, and its session does as well, or is not in the table yet, or serves no longer. -/
theorem inPhase (h : Warned stopping t) {phase : Phase} (htabled : phase.Tabled → t.phase.Tabled)
    (hchecked : (t.inPhase phase).PastSession ∨ ¬ (t.inPhase phase).HasChecked ∨
      t.HasChecked ∧ ¬ t.PastSession) : Warned stopping (t.inPhase phase) where
  leaves := h.leaves
  tabled hphase := h.tabled (htabled hphase)
  covered hwalked hafter := by
    rcases hchecked with hpast | hnot | ⟨hbefore, hlive⟩
    · exact .of_past hpast
    · exact absurd hafter hnot
    · rcases h.covered hwalked hbefore with hdue | (hstop | hread | hpast) | hfull
      · exact .inl hdue
      · exact .inr (.inl (.inl hstop))
      · exact .inr (.inl (.inr (.inl hread)))
      · exact absurd hpast hlive
      · exact .inr (.inr hfull)
  undue := h.undue

/-- Something in the mailbox changes, and no command to stop is taken out of it. -/
theorem inMailbox (h : Warned stopping t) {mailbox : Mailbox} {callers asked : Nat}
    (hleaves : mailbox.leaves ≤ asked) (hasked : t.asked ≤ asked)
    (hstop : .stop ∈ t.mailbox.commands → .stop ∈ mailbox.commands) :
    Warned stopping { t with mailbox, callers, asked } where
  leaves := hleaves
  tabled := h.tabled
  covered hwalked hchecked := by
    rcases h.covered hwalked hchecked with hdue | (hmem | hread | hpast) | hfull
    · exact .inl hdue
    · exact .inr (.inl (.inl (hstop hmem)))
    · exact .inr (.inl (.inr (.inl hread)))
    · exact .inr (.inl (.inr (.inr hpast)))
    · exact .inr (.inr (Nat.le_trans hfull hasked))
  undue := h.undue

/-- The session is entered in the table. -/
theorem enter (h : Warned stopping t) :
    Warned stopping { t with phase := .entered, entered := true, mailbox := {} } where
  leaves := Nat.zero_le _
  tabled _ := rfl
  covered _ hchecked := absurd hchecked.1 not_false
  undue := h.undue

/-- The task looks whether the server stops. -/
theorem check (h : Warned stopping t) (hphase : t.phase = .entered) :
    Warned stopping
      { t with
        phase := .checked
        mailbox := if stopping.begun then t.mailbox.tryStop else t.mailbox } where
  leaves := by
    simp only
    split
    · exact Nat.le_trans (Nat.le_of_eq (Mailbox.leaves_tryStop _)) h.leaves
    · exact h.leaves
  tabled _ := h.tabled (by rw [hphase]; trivial)
  covered hwalked _ := by
    simp only [Covered, StopReached, hwalked.begun, if_true]
    rcases reached_tryStop h.leaves with hstop | hfull
    · exact .inr (.inl (.inl hstop))
    · exact .inr (.inr hfull)
  undue := h.undue

/-- The session serves no longer. -/
theorem past (h : Warned stopping t) (hphase : t'.PastSession) (hleaves : t'.mailbox.leaves ≤ t.mailbox.leaves)
    (hasked : t'.asked = t.asked) (hdue : t'.due = t.due) : Warned stopping t' where
  leaves := hasked ▸ Nat.le_trans hleaves h.leaves
  tabled htabled := by
    rw [PastSession] at hphase
    cases hp : t'.phase
    all_goals
      rw [hp] at hphase htabled
      first | exact absurd hphase not_false | exact absurd htabled not_false
  covered _ _ := .of_past hphase
  undue htold := hdue ▸ h.undue htold

theorem step (h : Warned stopping t) (hstep : Step stopping t happened t') : Warned stopping t' := by
  cases hstep with
  | accept hphase | issue _ hphase | authenticate hphase | loginSucceeds hphase | loginFails _ hphase
  | loginStops _ hphase | free hphase | freeFails hphase | start hphase =>
    exact h.inPhase (fun htabled => absurd htabled not_false) (.inr (.inl fun hchecked => hchecked.1))
  | issueFails | freeFailed | freeFailedFails | startFails | finish | departed | close | reportClosed | rest =>
    exact h.past trivial (Nat.le_refl _) rfl rfl
  | enter _ _ => exact h.enter
  | check hphase => exact h.check hphase
  | announce hphase | serve _ _ _ hphase | resume hphase =>
    refine h.inPhase (fun _ => by rw [hphase]; trivial) (.inr (.inr ?_))
    rw [HasChecked, PastSession, hphase]
    exact ⟨trivial, not_false⟩
  | obey _ htake => exact h.past trivial (Mailbox.leaves_le_of_take? htake) rfl rfl
  | @depart mailbox hphase htake =>
    have hleaves := Nat.le_trans (Mailbox.leaves_le_of_take? htake) h.leaves
    have hmailbox : Warned stopping { t with mailbox } := by
      refine h.inMailbox hleaves (Nat.le_refl _) fun hstop => ?_
      rw [(Mailbox.take?_eq_some htake).1] at hstop
      exact (List.mem_cons.1 hstop).resolve_left (by decide)
    refine hmailbox.inPhase (fun _ => by rw [hphase]; trivial) (.inr (.inr ?_))
    rw [HasChecked, PastSession, hphase]
    exact ⟨trivial, not_false⟩
  | remove _ _ => exact h.past trivial (Nat.le_refl _) rfl rfl
  | useGrant hgranted =>
    exact h.inMailbox (Nat.le_trans (Nat.le_of_eq (Mailbox.leaves_useGrant hgranted)) h.leaves) (Nat.le_refl _)
      (List.mem_append_left _)

/-- The caller who stops the server begins to go through the table, and is yet to come to the session. -/
theorem mark (h : Warned .announced t) : Warned .telling (Listener.mark t) where
  leaves := h.leaves
  tabled := h.tabled
  covered _ hchecked := by
    by_cases hlive : t.phase.Tabled
    · exact .inl (h.tabled hlive)
    · refine .of_past ?_
      have hsame : (Listener.mark t).phase = t.phase := rfl
      rw [HasChecked, PastSession, hsame] at hchecked
      rw [PastSession, hsame]
      cases hphase : t.phase
      all_goals
        rw [hphase] at hlive hchecked
        first
        | exact trivial
        | exact absurd trivial hlive
        | exact absurd hchecked.1 not_false
  undue htold := nomatch htold

/-- The caller comes to the session. -/
theorem tell (h : Warned .telling t) : Warned .telling (Listener.tell t) where
  leaves := Nat.le_trans (Nat.le_of_eq (Mailbox.leaves_tryStop _)) h.leaves
  tabled := h.tabled
  covered _ _ := by
    rcases reached_tryStop h.leaves with hstop | hfull
    · exact .inr (.inl (.inl hstop))
    · exact .inr (.inr hfull)
  undue htold := nomatch htold

theorem unlock (h : Warned .telling t) (hdue : t.due = false) : Warned .told t where
  leaves := h.leaves
  tabled := h.tabled
  covered _ := h.covered trivial
  undue _ := hdue

/-- Nobody goes through the table yet. -/
theorem announce (h : Warned .no t) : Warned .announced t where
  leaves := h.leaves
  tabled := h.tabled
  covered hwalked := absurd hwalked not_false
  undue htold := nomatch htold

theorem find (h : Warned stopping t) : Warned stopping (Listener.find t) :=
  h.inMailbox h.leaves (Nat.le_refl _) fun hstop => hstop

theorem ask (h : Warned stopping t) : Warned stopping (Listener.ask t) := by
  refine h.inMailbox ?_ (Nat.le_succ _) Mailbox.mem_sendLeave
  rw [Mailbox.leaves_sendLeave]
  exact Nat.succ_le_succ h.leaves

end Warned

end Task

namespace Listener

variable {limit : Nat} {l m : Listener}

/-- Every task is as it should be. -/
def Warned (l : Listener) : Prop := ∀ t ∈ l.tasks, t.Warned l.stopping

namespace Warned

/-- One task changes. -/
theorem one (h : Warned l) {before after : List Task} {t t' : Task} (htasks : l.tasks = before ++ t :: after)
    (hnew : t.Warned l.stopping → t'.Warned l.stopping) {happenings : List Happening} :
    Warned { l with tasks := before ++ t' :: after, happenings } := by
  rw [Warned, htasks] at h
  intro s hs
  rcases List.mem_append.1 hs with hs | hs
  · exact h s (List.mem_append_left _ hs)
  · rcases List.mem_cons.1 hs with rfl | hs
    · exact hnew (h t (List.mem_append_right _ List.mem_cons_self))
    · exact h s (List.mem_append_right _ (List.mem_cons_of_mem _ hs))

theorem step (h : Warned l) (hstep : Step l m) : Warned m := by
  cases hstep with
  | connect _ | adopt | reject _ _ | allow _ _ | quit _ _ => exact h
  | welcome _ =>
    intro t ht
    rcases List.mem_append.1 ht with ht | ht
    · exact h t ht
    · rw [List.mem_singleton.1 ht]
      exact Task.warned_spawned _ _
  | task htasks hstep => exact h.one htasks fun ht => ht.step hstep
  | finish htasks _ =>
    intro t ht
    refine h t ?_
    rw [htasks]
    rcases List.mem_append.1 ht with ht | ht
    · exact List.mem_append_left _ ht
    · exact List.mem_append_right _ (List.mem_cons_of_mem _ ht)
  | announce hstopping =>
    rw [Warned, hstopping] at h
    exact fun t ht => (h t ht).announce
  | lock hstopping =>
    rw [Warned, hstopping] at h
    intro t ht
    obtain ⟨s, hs, rfl⟩ := List.mem_map.1 ht
    exact (h s hs).mark
  | tell hstopping htasks _ =>
    refine h.one htasks fun ht => ?_
    rw [hstopping] at ht ⊢
    exact ht.tell
  | unlock hstopping hdue =>
    rw [Warned, hstopping] at h
    exact fun t ht => (h t ht).unlock (hdue t ht)
  | find _ htasks _ => exact h.one htasks fun ht => ht.find
  | ask htasks _ => exact h.one htasks fun ht => ht.ask

theorem run (h : Warned l) (hrun : Run l m) : Warned m := by
  induction hrun with
  | refl => exact h
  | tail _ hstep ih => exact ih.step hstep

end Warned

/-! ### One session in the table -/

variable {start : Listener} {stopping : Stopping} {t : Task} {history : List Happening}

theorem Run.ask (hrun : Run start (only stopping t history)) (hfree : stopping.tableFree = true)
    (hentered : t.entered = true) : Run start (only stopping (ask (find t)) history) := by
  have hfind := hrun.tail (.find hfree (show (only stopping t history).tasks = [] ++ t :: [] from rfl) hentered)
  exact hfind.tail (.ask (show Listener.tasks _ = [] ++ find t :: [] from rfl) (Nat.succ_ne_zero _))

theorem Run.stop (hrun : Run start (only .no t history)) (hentered : t.entered = true) :
    Run start (only .told (tell (mark t)) history) := by
  have hlock : Run start (only .telling (mark t) history) := (hrun.tail (.announce rfl)).tail (.lock rfl)
  have htell := hlock.tail (.tell rfl (show Listener.tasks _ = [] ++ mark t :: [] from rfl) hentered)
  refine htell.tail (.unlock rfl fun s hs => ?_)
  rw [List.mem_singleton.1 hs]
  rfl

/-! ### All sessions -/

/-- **The command to stop reaches every session that was not told to leave too often.** Once the caller who stops the
listener has gone through the table, each session that is in the table and whose task has looked for itself has the
command in its mailbox, has read it, or serves no longer, if it was told to leave fewer times than a mailbox has
places. -/
theorem stop_reaches (hrun : Run (initial limit) l) (htold : l.stopping = .told) :
    ∀ t ∈ l.tasks, t.HasChecked → t.asked < Mailbox.capacity → t.StopReached := by
  have hwarned : Warned l := Warned.run (fun _ ht => absurd ht List.not_mem_nil) hrun
  intro t ht hchecked hasked
  have htask := hwarned t ht
  rw [htold] at htask
  rcases htask.covered trivial hchecked with hdue | hreached | hfull
  · rw [htask.undue rfl] at hdue
    cases hdue
  · exact hreached
  · omega

/-- A session that was told to leave once is told to stop besides. -/
theorem stop_reaches_serving :
    ∃ l t, Run (initial 1) l ∧ l.stopping = .told ∧ t ∈ l.tasks ∧ t.mailbox.commands = [.leave, .stop] ∧
      t.HasChecked ∧ t.asked < Mailbox.capacity ∧ t.StopReached := by
  have hrun := (run_serving.ask rfl rfl).stop rfl
  have hreached := stop_reaches hrun rfl (tell (mark (ask (find servingTask)))) List.mem_cons_self trivial (by decide)
  exact ⟨_, _, hrun, rfl, List.mem_cons_self, by decide, trivial, by decide, hreached⟩

/-- **The command to stop is lost** in a mailbox full of commands to leave: when the session has obeyed none of them with
success, it serves on, its mailbox is empty, and nobody will tell it again. -/
theorem stop_is_lost :
    ∃ l t, Run (initial 1) l ∧ l.stopping = .told ∧ t ∈ l.tasks ∧ t.phase = .serving ∧ t.mailbox = {} ∧
      t.HasChecked ∧ ¬ t.StopReached := by
  have hasked := (((run_serving.ask rfl rfl).ask rfl rfl).ask rfl rfl).ask rfl rfl
  have htold := hasked.stop rfl
  have hone := (htold.act (.depart rfl rfl)).act (.resume rfl)
  have htwo := (hone.act (.depart rfl rfl)).act (.resume rfl)
  have hthree := (htwo.act (.depart rfl rfl)).act (.resume rfl)
  have hfour := (hthree.act (.depart rfl rfl)).act (.resume rfl)
  refine ⟨_, _, hfour, rfl, List.mem_cons_self, rfl, by decide, trivial, ?_⟩
  rintro (hstop | hread | hpast)
  · exact absurd hstop (by decide)
  · cases hread
  · exact hpast

end Listener

end RemoteDesktop
