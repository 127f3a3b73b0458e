import RemoteDesktop.Frame.Queue

/-!
# The history of a frame queue

Producer and consumers share a queue, and whoever does something to it does so alone. A run is therefore
a list of actions, no matter whose. A consumer that waits looks when it arrives and whenever it is woken;
as long as there is nothing for it and its time is not up, it waits on.

`history` records what each action did, oldest first. What follows from a history alone, without a look at
the queue, is defined here: which pushes were accepted, which frames were delivered, and which frame is
the latest.
-/

namespace RemoteDesktop.FrameQueue

variable {α : Type}

/-- Look for a frame as a consumer that waits does. It gets no answer as long as it waits on. -/
def look (timeUp : Bool) (q : FrameQueue α) : Option (Outcome α) × FrameQueue α :=
  match q.poll with
  | (.noData, q) => (if timeUp then some .noData else none, q)
  | (answer, q) => (some answer, q)

/-- Something that is done to a queue. -/
inductive Action (α : Type) where
  | push (frame : α)
  /-- A consumer that waits looks; `timeUp` says whether its time is up. -/
  | look (timeUp : Bool)
  | reset
  | stop
  | recycle (frame : α)
  | takeRecycled
  deriving DecidableEq, Repr

/-- What an action did. -/
inductive Event (α : Type) where
  /-- A frame was offered, and this one came back. -/
  | pushed (frame : α) (back : Option α)
  /-- A consumer looked, and got an answer or waits on. -/
  | looked (answer : Option (Outcome α))
  /-- The queue was reset, and this frame was no longer pending. -/
  | reset (withdrawn : Option α)
  /-- The queue was stopped, and this frame was no longer pending. -/
  | stopped (withdrawn : Option α)
  | recycled (frame : α)
  | tookRecycled (frame : Option α)
  deriving DecidableEq, Repr

/-- What an action does, and the queue after it. -/
def act (q : FrameQueue α) : Action α → Event α × FrameQueue α
  | .push frame => ((q.push frame).map (.pushed frame) id)
  | .look timeUp => ((q.look timeUp).map .looked id)
  | .reset => (.reset q.pending, q.reset)
  | .stop => (.stopped q.pending, q.stop)
  | .recycle frame => (.recycled frame, q.recycle frame)
  | .takeRecycled => (q.takeRecycled.map .tookRecycled id)

/-- The queue after some actions. -/
def run (q : FrameQueue α) : List (Action α) → FrameQueue α
  | [] => q
  | a :: actions => run (q.act a).2 actions

/-- What some actions do, in order. -/
def history (q : FrameQueue α) : List (Action α) → List (Event α)
  | [] => []
  | a :: actions => (q.act a).1 :: history (q.act a).2 actions

/-! ### What a history tells -/

namespace Event

def isStop : Event α → Bool
  | stopped _ => true
  | _ => false

/-- The frame that was offered. -/
def offered? : Event α → Option α
  | pushed frame _ => some frame
  | _ => none

/-- The frame that came back from a push. -/
def back? : Event α → Option α
  | pushed _ back => back
  | _ => none

/-- The frame that a consumer got. -/
def delivered? : Event α → Option α
  | looked (some (.frame frame)) => some frame
  | _ => none

/-- The pending frame that was given up. -/
def withdrawn? : Event α → Option α
  | reset withdrawn | stopped withdrawn => withdrawn
  | _ => none

/-- The frame that was taken to be used again. -/
def reused? : Event α → Option α
  | tookRecycled frame => frame
  | _ => none

/-- The pending frame, if there is one, is the same afterwards. -/
def spares : Event α → Bool
  | pushed .. | looked (some (.frame _)) | reset _ | stopped _ => false
  | looked _ | recycled _ | tookRecycled _ => true

end Event

/-- The queue has been stopped. -/
def hasStop (h : List (Event α)) : Bool := h.any Event.isStop

/-- The events before the queue was stopped. -/
def beforeStop (h : List (Event α)) : List (Event α) := h.takeWhile (!·.isStop)

/-- The frames that were accepted: those offered before the queue was stopped. -/
def accepted (h : List (Event α)) : List α := (beforeStop h).filterMap Event.offered?

/-- The frames that were displaced by accepted ones. -/
def displaced (h : List (Event α)) : List α := (beforeStop h).filterMap Event.back?

/-- The frames that consumers got. -/
def delivered (h : List (Event α)) : List α := h.filterMap Event.delivered?

/-- The pending frames that were given up. -/
def withdrawn (h : List (Event α)) : List α := h.filterMap Event.withdrawn?

/-- The frame is the last one accepted, and since then nobody got it, and the queue was neither reset nor
stopped. -/
def Latest (h : List (Event α)) (frame : α) : Prop :=
  ∃ earlier back later, h = earlier ++ .pushed frame back :: later ∧ hasStop earlier = false ∧
    ∀ e ∈ later, e.spares = true

end RemoteDesktop.FrameQueue
