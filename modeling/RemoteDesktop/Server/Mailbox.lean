/-!
# Mailboxes

A mailbox holds a bounded number of commands for one session, oldest first. Whoever finds it full may
go away, or wait in line: a place that becomes free belongs to the first in line from then on, even
before that one has used it.
-/

namespace RemoteDesktop

/-- What a server can tell a session to do. -/
inductive SessionCommand where
  /-- Close the connection. -/
  | stop
  /-- Go on in another process. -/
  | leave
  deriving DecidableEq, Repr

/-- The commands for one session. -/
structure Mailbox where
  /-- The commands not yet read, oldest first. -/
  commands : List SessionCommand := []
  /-- How many senders wait in line with a command to leave. -/
  waiting : Nat := 0
  /-- How many senders have been given a place and not used it. -/
  granted : Nat := 0
  deriving DecidableEq, Repr

namespace Mailbox

/-- The number of commands that a mailbox holds. -/
def capacity : Nat := 4

/-- A command can be put in at once. -/
def HasRoom (m : Mailbox) : Prop := m.commands.length + m.granted < capacity

instance (m : Mailbox) : Decidable m.HasRoom := inferInstanceAs (Decidable (_ < _))

/-- Put a command to stop in, if there is room; otherwise go away. -/
def tryStop (m : Mailbox) : Mailbox :=
  if m.HasRoom then { m with commands := m.commands ++ [.stop] } else m

/-- Put a command to leave in, or wait in line. -/
def sendLeave (m : Mailbox) : Mailbox :=
  if m.HasRoom then { m with commands := m.commands ++ [.leave] }
  else { m with waiting := m.waiting + 1 }

/-- The mailbox after a command was read: the place goes to the first in line. -/
def taken (rest : List SessionCommand) (m : Mailbox) : Mailbox :=
  match m.waiting with
  | 0 => { m with commands := rest }
  | waiting + 1 => { commands := rest, waiting, granted := m.granted + 1 }

/-- Read the oldest command. -/
def take? (m : Mailbox) : Option (SessionCommand × Mailbox) :=
  match m.commands with
  | [] => none
  | command :: rest => some (command, m.taken rest)

/-- The sender that was given a place uses it. -/
def useGrant (m : Mailbox) : Mailbox :=
  { m with commands := m.commands ++ [.leave], granted := m.granted - 1 }

end Mailbox

end RemoteDesktop
