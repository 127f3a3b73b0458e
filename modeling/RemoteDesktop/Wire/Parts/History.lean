import RemoteDesktop.Wire.Parts

/-!
# The history of an assembler

Messages are pushed into an assembler one after the other, and each gets its answer. Messages and answers alone tell
which parts an update that comes next is made of: those that were pushed since the assembler last got rid of what it
had, because it gave away an update or met a part of another one (`gathered`). What such parts make together is said
here without a look at the assembler (`Joins`).
-/

namespace RemoteDesktop

/-- The update, or the part of one, that a message carries. -/
def ServerMessage.part? : ServerMessage → Option Update
  | .update part | .updatePart part => some part
  | .challenge _ | .verdict _ => none

namespace Wire

/-- The parts make an update: it has the header of the first of them and the rectangles of all, in order, and each of
them carries its number. -/
def Joins (parts : List Update) (u : Update) : Prop :=
  ∃ first, parts.head? = some first ∧ u = { first with rects := parts.flatMap (·.rects) } ∧
    ∀ part ∈ parts, part.sequence = u.sequence

namespace Assembler

/-- A message that was pushed, with the answer to it. -/
structure Push where
  message : ServerMessage
  answer : Except AssemblyError (Option Update)

/-- The assembler has nothing after it: it gave away an update, or dropped its parts. -/
def Push.clears (p : Push) : Bool :=
  match p.answer with
  | .ok (some _) | .error .outOfSequence => true
  | .ok none | .error .notAnUpdate => false

/-- The assembler after some messages. -/
def run (a : Assembler) (messages : List ServerMessage) : Assembler := messages.foldl (fun a m => (a.push m).2) a

/-- Some messages, each with the answer to it. -/
def history (a : Assembler) : List ServerMessage → List Push
  | [] => []
  | m :: messages => ⟨m, (a.push m).1⟩ :: history (a.push m).2 messages

/-- The parts that were pushed since the assembler had nothing. -/
def gathered (h : List Push) : List Update :=
  (h.reverse.takeWhile (!·.clears)).reverse.filterMap (·.message.part?)

end Assembler

end Wire

end RemoteDesktop
