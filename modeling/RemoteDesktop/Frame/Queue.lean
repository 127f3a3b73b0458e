/-!
# The frame queue

A queue of one place between the thread that captures frames and the thread that encodes them. A new
frame displaces one that nobody took yet, so the consumer always sees the latest. Beside the pending
frame the queue keeps one used frame, whose buffer the producer may take again. Every operation is one
critical section, so a run of producer and consumers is a list of operations.

The operations are written for any type of frames.
-/

namespace RemoteDesktop

namespace FrameQueue

/-- What has passed through a queue. The numbers have no bound: no queue lives to see 2⁶⁴ frames. -/
structure Stats where
  /-- Frames accepted by `push`. -/
  pushed : Nat := 0
  /-- Frames displaced before anyone took them. -/
  dropped : Nat := 0
  /-- Frames handed to a consumer. -/
  delivered : Nat := 0
  deriving DecidableEq, Repr, Inhabited

/-- What a consumer finds when it looks. -/
inductive Outcome (α : Type) where
  | frame (frame : α)
  /-- Nothing is pending. -/
  | noData
  /-- The queue has been stopped. -/
  | stopped
  deriving DecidableEq, Repr

end FrameQueue

/-- A queue of one pending frame and one used frame. -/
structure FrameQueue (α : Type) where
  pending : Option α := none
  recycled : Option α := none
  stopped : Bool := false
  stats : FrameQueue.Stats := {}
  deriving DecidableEq, Repr

namespace FrameQueue

variable {α : Type}

instance : Inhabited (FrameQueue α) := ⟨{}⟩

/-- Offer a frame. What comes back is the displaced frame, or the offered one if the queue is
stopped. -/
def push (frame : α) (q : FrameQueue α) : Option α × FrameQueue α :=
  if q.stopped then (some frame, q)
  else
    (q.pending,
      { q with
        pending := some frame
        stats := { q.stats with
          pushed := q.stats.pushed + 1
          dropped := q.stats.dropped + (if q.pending.isSome then 1 else 0) } })

/-- Look for a frame once: a waiting consumer looks when it arrives, when it is woken, and when its
time is up. -/
def poll (q : FrameQueue α) : Outcome α × FrameQueue α :=
  if q.stopped then (.stopped, q)
  else
    match q.pending with
    | some frame =>
      (.frame frame,
        { q with pending := none, stats := { q.stats with delivered := q.stats.delivered + 1 } })
    | none => (.noData, q)

/-- Withdraw the pending frame; its buffer becomes the used frame if there is none. -/
def reset (q : FrameQueue α) : FrameQueue α :=
  { q with pending := none, recycled := q.recycled <|> q.pending }

/-- Stop the queue for good. -/
def stop (q : FrameQueue α) : FrameQueue α :=
  { q with pending := none, recycled := none, stopped := true }

/-- Give back a used frame; it is dropped if there is one already or the queue is stopped. -/
def recycle (frame : α) (q : FrameQueue α) : FrameQueue α :=
  if q.stopped then q else { q with recycled := q.recycled <|> some frame }

/-- Take the used frame. -/
def takeRecycled (q : FrameQueue α) : Option α × FrameQueue α :=
  (q.recycled, { q with recycled := none })

end FrameQueue

end RemoteDesktop
