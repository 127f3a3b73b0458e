import RemoteDesktop.Server.Event
import RemoteDesktop.Server.Mailbox

/-!
# Connection tasks

Each connection that a server admits has a task of its own, which takes it from the login to its end and
reports every stage. `Task.Step` holds the actions of a task, with what happens to the connection in each;
nothing that happens outside the task comes between an action and its events.

A session is entered in the server's table together with its mailbox, unless a caller who stops the server has
the table to itself. Only afterwards the task looks whether the server stops, and puts a command to stop in its
own mailbox if it does. Once the session is over nobody reads its mailbox.
-/

namespace RemoteDesktop

/-- How far the server has been stopped. -/
inductive Stopping where
  | no
  /-- It is announced that the server stops. -/
  | announced
  /-- The caller goes through the table, and has it to itself. -/
  | telling
  /-- All sessions that were in the table have been told. -/
  | told
  deriving DecidableEq, Repr

namespace Stopping

/-- It is announced that the server stops. -/
def begun : Stopping → Bool
  | no => false
  | announced | telling | told => true

/-- Everybody has access to the table of sessions. -/
def tableFree : Stopping → Bool
  | telling => false
  | no | announced | told => true

end Stopping

namespace Task

/-- Where a task stands. -/
inductive Phase where
  | spawned
  /-- A record for the login is to be written. -/
  | accepting
  /-- The record is at `path`. -/
  | issued (path : String)
  /-- The viewer logs in. -/
  | authenticating (path : String)
  /-- The login has succeeded, and the record is to be removed. -/
  | authenticated (path : String)
  /-- The login has failed, and the record is to be removed. -/
  | failed (path : String) (reason : CloseReason)
  /-- The session is to be started. -/
  | starting
  /-- The session has started. -/
  | started
  /-- The session is in the table. -/
  | entered
  /-- The task has looked whether the server stops. -/
  | checked
  /-- That the session serves has been reported. -/
  | announced
  /-- The session waits for something to do. -/
  | serving
  /-- The session tries to go on elsewhere. -/
  | departing
  /-- The session is over, and is to be taken out of the table. -/
  | ended (reason : CloseReason)
  /-- The connection is to be reported as closing. -/
  | left (reason : CloseReason)
  | closing (reason : CloseReason)
  | closed
  /-- Everything is reported. -/
  | idle
  deriving DecidableEq

end Task

/-- The task of a connection. -/
structure Task where
  id : ConnectionId
  phase : Task.Phase := .spawned
  mailbox : Mailbox := {}
  /-- The session is in the table. -/
  entered : Bool := false
  /-- The session has read a command to stop. -/
  stopRead : Bool := false
  /-- The caller who goes through the table has yet to come to the session. -/
  due : Bool := false
  /-- How many callers have found the session in the table and are about to tell it to leave. -/
  callers : Nat := 0
  /-- How often the session has been told to leave, whatever became of it. Nobody looks at it. -/
  asked : Nat := 0
  deriving DecidableEq

namespace Task

/-- The task as it goes on in another phase. -/
def inPhase (phase : Phase) (t : Task) : Task := { t with phase }

/-- A single action of a task, and what happens to the connection. -/
inductive Step (stopping : Stopping) : Task → List Happening → Task → Prop where
  | accept {t : Task} :
    t.phase = .spawned → Step stopping t [.entering t.id .accepting] (t.inPhase .accepting)
  /-- A record is written. -/
  | issue {t : Task} (path : String) :
    t.phase = .accepting →
      Step stopping t [.reported (.credentialIssued t.id path)] (t.inPhase (.issued path))
  /-- No record can be written. -/
  | issueFails {t : Task} (text : String) :
    t.phase = .accepting → Step stopping t [] (t.inPhase (.left (.internal text)))
  | authenticate {t : Task} {path : String} :
    t.phase = .issued path →
      Step stopping t [.entering t.id .authenticating] (t.inPhase (.authenticating path))
  /-- The viewer has shown that it knows the password. -/
  | loginSucceeds {t : Task} {path : String} :
    t.phase = .authenticating path → Step stopping t [.loggedIn t.id] (t.inPhase (.authenticated path))
  /-- The login fails, or takes too long. -/
  | loginFails {t : Task} {path : String} (e : LoginError) :
    t.phase = .authenticating path →
      Step stopping t [] (t.inPhase (.failed path (.ofLogin e)))
  /-- The server stops during the login. -/
  | loginStops {t : Task} {path : String} :
    stopping.begun = true → t.phase = .authenticating path →
      Step stopping t [] (t.inPhase (.failed path .shutdown))
  | free {t : Task} {path : String} :
    t.phase = .authenticated path →
      Step stopping t [.reported (.credentialFreed t.id path)] (t.inPhase .starting)
  /-- The record cannot be removed. -/
  | freeFails {t : Task} {path : String} :
    t.phase = .authenticated path → Step stopping t [.recordKept t.id path] (t.inPhase .starting)
  | freeFailed {t : Task} {path : String} {reason : CloseReason} :
    t.phase = .failed path reason →
      Step stopping t [.reported (.credentialFreed t.id path)] (t.inPhase (.left reason))
  /-- The record cannot be removed. -/
  | freeFailedFails {t : Task} {path : String} {reason : CloseReason} :
    t.phase = .failed path reason → Step stopping t [.recordKept t.id path] (t.inPhase (.left reason))
  | start {t : Task} : t.phase = .starting → Step stopping t [] (t.inPhase .started)
  /-- The session cannot be started. -/
  | startFails {t : Task} (text : String) :
    t.phase = .starting → Step stopping t [] (t.inPhase (.left (.internal text)))
  /-- The session is entered in the table, with an empty mailbox. -/
  | enter {t : Task} :
    stopping.tableFree = true → t.phase = .started →
      Step stopping t [] { t with phase := .entered, entered := true, mailbox := {} }
  /-- The task looks whether the server stops. -/
  | check {t : Task} :
    t.phase = .entered →
      Step stopping t []
        { t with
          phase := .checked
          mailbox := if stopping.begun then t.mailbox.tryStop else t.mailbox }
  | announce {t : Task} :
    t.phase = .checked → Step stopping t [.entering t.id .serving] (t.inPhase .announced)
  | serve {t : Task} (username : String) (peer : Option Net.SocketAddress) (size : Size) :
    t.phase = .announced →
      Step stopping t [.reported (.sessionStarted t.id username peer size)] (t.inPhase .serving)
  /-- The viewer leaves, or something fails. -/
  | finish {t : Task} (reason : CloseReason) :
    t.phase = .serving → Step stopping t [] (t.inPhase (.ended reason))
  /-- The session reads a command to stop. -/
  | obey {t : Task} {mailbox : Mailbox} :
    t.phase = .serving → t.mailbox.take? = some (.stop, mailbox) →
      Step stopping t [] { t with phase := .ended .shutdown, mailbox, stopRead := true }
  /-- The session reads a command to leave. -/
  | depart {t : Task} {mailbox : Mailbox} :
    t.phase = .serving → t.mailbox.take? = some (.leave, mailbox) →
      Step stopping t [] { t with phase := .departing, mailbox }
  /-- The session has not left, and goes on here. -/
  | resume {t : Task} : t.phase = .departing → Step stopping t [] (t.inPhase .serving)
  /-- The session has left, or is lost. -/
  | departed {t : Task} (reason : CloseReason) :
    t.phase = .departing → Step stopping t [] (t.inPhase (.ended reason))
  /-- The session is taken out of the table. -/
  | remove {t : Task} {reason : CloseReason} :
    stopping.tableFree = true → t.phase = .ended reason →
      Step stopping t [] { t with phase := .left reason, entered := false }
  | close {t : Task} {reason : CloseReason} :
    t.phase = .left reason → Step stopping t [.entering t.id .closing] (t.inPhase (.closing reason))
  | reportClosed {t : Task} {reason : CloseReason} :
    t.phase = .closing reason → Step stopping t [.reported (.closed t.id reason)] (t.inPhase .closed)
  | rest {t : Task} :
    t.phase = .closed → Step stopping t [.entering t.id .idle] (t.inPhase .idle)
  /-- A sender that was given a place in the mailbox uses it. -/
  | useGrant {t : Task} :
    t.mailbox.granted ≠ 0 → Step stopping t [] { t with mailbox := t.mailbox.useGrant }

/-- The session will serve no longer: it has ended, or never started. -/
def PastSession (t : Task) : Prop :=
  match t.phase with
  | .ended _ | .left _ | .closing _ | .closed | .idle => True
  | _ => False

/-- The task has entered its session and looked whether the server stops. -/
def HasChecked (t : Task) : Prop :=
  match t.phase with
  | .checked | .announced | .serving | .departing => True
  | _ => t.PastSession ∧ t.entered = true

/-- A command to stop has reached the session, or need not reach it any more. -/
def StopReached (t : Task) : Prop :=
  SessionCommand.stop ∈ t.mailbox.commands ∨ t.stopRead = true ∨ t.PastSession

end Task

end RemoteDesktop
