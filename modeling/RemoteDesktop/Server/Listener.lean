import RemoteDesktop.Server.Task

/-!
# The listener

A listener admits connections up to a limit and gives each a task; a connection beyond the limit is
closed at once. It can be told to stop, and to have sessions go on in another process. Numbers of
connections are also given to sessions that were taken over from other processes, so they are drawn
from one source.

`Listener.Step` holds the actions of the acceptor, of the tasks, and of those who call the listener. The acceptor
first compares the count of connections with the limit; then it counts the connection and begins its task, which
are one action here because nothing can be seen of a task before its first event. To stop, a caller announces that
the server stops and then goes through the table, which it has to itself meanwhile, putting a command to stop in the
mailbox of every session there. A caller who wants a session to leave looks for it in the table, and puts its command
in the mailbox at some later time.
-/

namespace RemoteDesktop

/-- Where the acceptor stands. -/
inductive Listener.Acceptor where
  | waiting
  /-- A connection has come and has been given a number. -/
  | numbered (id : ConnectionId)
  /-- There were fewer connections than allowed. -/
  | admitting (id : ConnectionId)
  | stopped
  deriving DecidableEq, Repr

/-- A running listener. -/
structure Listener where
  /-- The greatest number of connections at one time. -/
  limit : Nat
  /-- The number of the next connection. -/
  nextId : ConnectionId := 1
  acceptor : Listener.Acceptor := .waiting
  stopping : Stopping := .no
  /-- The count of connections that is compared with the limit. -/
  active : Nat := 0
  /-- The tasks that have not finished. -/
  tasks : List Task := []
  /-- Everything that has happened, in order. -/
  happenings : List Happening := []
  /-- All numbers given away, latest first. -/
  numbers : List ConnectionId := []
  /-- Those of them that were given to sessions taken over. -/
  adopted : List ConnectionId := []
  deriving DecidableEq

namespace Listener

/-- Everything reported, in order. -/
def events (l : Listener) : List ServerEvent := l.happenings.filterMap Happening.event?

/-- The connection that the acceptor is busy with. -/
def Acceptor.id? : Acceptor → Option ConnectionId
  | numbered id | admitting id => some id
  | waiting | stopped => none

/-- The connections that the acceptor or a task is busy with. -/
def busy (l : Listener) : List ConnectionId := l.acceptor.id?.toList ++ l.tasks.map (·.id)

/-- Give away the next number. -/
def number (l : Listener) : Listener :=
  { l with nextId := l.nextId + 1, numbers := l.nextId :: l.numbers }

/-- A task that the caller who stops the listener has yet to come to, if it is in the table. -/
def mark (t : Task) : Task := { t with due := t.entered }

/-- A task after the caller that stops the listener came to it. -/
def tell (t : Task) : Task := { t with due := false, mailbox := t.mailbox.tryStop }

/-- A task after a caller found it in the table. -/
def find (t : Task) : Task := { t with callers := t.callers + 1 }

/-- A task after one of these callers told it to leave. -/
def ask (t : Task) : Task :=
  { t with callers := t.callers - 1, asked := t.asked + 1, mailbox := t.mailbox.sendLeave }

/-- A single action. -/
inductive Step : Listener → Listener → Prop where
  /-- A connection comes. -/
  | connect {l : Listener} :
    l.acceptor = .waiting → Step l { l.number with acceptor := .numbered l.nextId }
  /-- There are as many connections as allowed. -/
  | reject {l : Listener} {id : ConnectionId} :
    l.acceptor = .numbered id → l.limit ≤ l.active →
      Step l
        { l with
          acceptor := .waiting
          happenings := l.happenings ++ [.reported (.closed id .connectionLimit)] }
  /-- There are fewer. -/
  | allow {l : Listener} {id : ConnectionId} :
    l.acceptor = .numbered id → l.active < l.limit → Step l { l with acceptor := .admitting id }
  /-- The connection is counted, and its task begins. -/
  | welcome {l : Listener} {id : ConnectionId} :
    l.acceptor = .admitting id →
      Step l
        { l with
          acceptor := .waiting
          active := l.active + 1
          tasks := l.tasks ++ [{ id }] }
  /-- The acceptor sees that the server stops. -/
  | quit {l : Listener} :
    l.acceptor = .waiting → l.stopping.begun = true → Step l { l with acceptor := .stopped }
  /-- A task goes on. -/
  | task {l : Listener} {before after : List Task} {t t' : Task} {happened : List Happening} :
    l.tasks = before ++ t :: after → Task.Step l.stopping t happened t' →
      Step l { l with tasks := before ++ t' :: after, happenings := l.happenings ++ happened }
  /-- A task has reported everything, and is finished. -/
  | finish {l : Listener} {before after : List Task} {t : Task} :
    l.tasks = before ++ t :: after → t.phase = .idle →
      Step l { l with tasks := before ++ after, active := l.active - 1 }
  /-- A caller begins to stop the listener. -/
  | announce {l : Listener} : l.stopping = .no → Step l { l with stopping := .announced }
  /-- The caller has the table to itself. -/
  | lock {l : Listener} :
    l.stopping = .announced → Step l { l with stopping := .telling, tasks := l.tasks.map mark }
  /-- The caller comes to a session. -/
  | tell {l : Listener} {before after : List Task} {t : Task} :
    l.stopping = .telling → l.tasks = before ++ t :: after → t.due = true →
      Step l { l with tasks := before ++ Listener.tell t :: after }
  /-- The caller has come to every session. -/
  | unlock {l : Listener} :
    l.stopping = .telling → (∀ t ∈ l.tasks, t.due = false) → Step l { l with stopping := .told }
  /-- A caller finds the session that is to go on in another process. -/
  | find {l : Listener} {before after : List Task} {t : Task} :
    l.stopping.tableFree = true → l.tasks = before ++ t :: after → t.entered = true →
      Step l { l with tasks := before ++ Listener.find t :: after }
  /-- The caller tells the session. -/
  | ask {l : Listener} {before after : List Task} {t : Task} :
    l.tasks = before ++ t :: after → t.callers ≠ 0 → Step l { l with tasks := before ++ Listener.ask t :: after }
  /-- A session taken over from another process is given a number. -/
  | adopt {l : Listener} : Step l { l.number with adopted := l.nextId :: l.adopted }

/-- Any number of actions. -/
inductive Run : Listener → Listener → Prop where
  | refl (l : Listener) : Run l l
  | tail {l m n : Listener} : Run l m → Step m n → Run l n

/-- A listener that has just started. -/
def initial (limit : Nat) : Listener := { limit }

end Listener

end RemoteDesktop
