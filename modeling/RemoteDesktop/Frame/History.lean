import RemoteDesktop.Frame

/-!
# The history of a frame

A frame is used again and again: it stays in its place, and its bytes and fields are changed there one after the other.
A change that fails half-way leaves what it has done until then; `InPlace` is a computation that changes a frame in this
way, and `InPlace.configure` gives a frame its geometry step by step. An `Operation` is anything that is done to a
frame, apart from a change of its buffer alone, which may leave it with too few bytes.
-/

namespace RemoteDesktop.Frame

/-- A computation that changes a frame in its place. A failure leaves the frame as it is at that moment. -/
abbrev InPlace := ExceptT FrameError (StateM Frame)

namespace InPlace

/-- How a computation ends, and the frame after it. -/
def on (change : InPlace Unit) (f : Frame) : Except FrameError Unit × Frame := StateT.run (ExceptT.run change) f

theorem on_pure (f : Frame) : (pure () : InPlace Unit).on f = (.ok (), f) := rfl

theorem on_throw (e : FrameError) (f : Frame) : (throw e : InPlace Unit).on f = (.error e, f) := rfl

theorem on_modify (change : Frame → Frame) (f : Frame) : (modify change : InPlace Unit).on f = (.ok (), change f) := rfl

theorem on_get_bind (next : Frame → InPlace Unit) (f : Frame) : (get >>= next).on f = (next f).on f := rfl

theorem on_ite (p : Prop) [Decidable p] (a b : InPlace Unit) (f : Frame) :
    (if p then a else b).on f = if p then a.on f else b.on f := by
  split <;> rfl

/-- A second computation goes on with what the first one left, unless that one failed. -/
theorem on_bind (first second : InPlace Unit) (f : Frame) :
    (first >>= fun _ => second).on f =
      match first.on f with
      | (.ok (), next) => second.on next
      | (.error e, next) => (.error e, next) := by
  simp only [on, ExceptT.run_bind, StateT.run_bind]
  rcases StateT.run (ExceptT.run first) f with ⟨ends, next⟩
  cases ends <;> rfl

/-- Make the buffer `size` bytes long, as `Frame.ensureCapacity` says. -/
def ensureCapacity (memory : Memory) (size : Nat) : InPlace Unit := do
  let f ← get
  if f.data.size = size then
    return
  else if memory size then
    modify fun f => { f with data := Bytes.zeros size }
  else
    throw (.allocation size)

/-- Give the frame a geometry and a timestamp, as `Frame.configure` says: first the buffer, then field by field. -/
def configure (memory : Memory) (width height stride : UInt32) (timestamp : Nat) : InPlace Unit := do
  if 0x1_0000_0000 ≤ width.toNat * bytesPerPixel then
    throw (.overflow width height stride)
  else if stride.toNat < width.toNat * bytesPerPixel then
    throw (.invalidStride width stride)
  else
    ensureCapacity memory (stride.toNat * height.toNat)
    modify fun f => { f with width }
    modify fun f => { f with height }
    modify fun f => { f with stride }
    modify fun f => { f with timestamp }

end InPlace

/-- Something that is done to a frame. Every allocation may be refused. -/
inductive Operation where
  /-- A frame without pixels comes in its place. -/
  | new (timestamp : Nat)
  /-- A frame in a single colour comes in its place, if it can be made. -/
  | solid (memory : Memory) (width height : UInt32) (colour : Colour) (timestamp : Nat)
  | configure (memory : Memory) (width height stride : UInt32) (timestamp : Nat)
  | fill (colour : Colour)
  /-- Bytes inside the buffer are overwritten. -/
  | write (start : Nat) (bytes : ByteArray)
  | stamp (timestamp : Nat)

/-- The frame after an operation. -/
def after (f : Frame) : Operation → Frame
  | .new timestamp => .empty timestamp
  | .solid memory width height colour timestamp =>
    match solid memory width height colour timestamp with
    | .ok next => next
    | .error _ => f
  | .configure memory width height stride timestamp =>
    ((InPlace.configure memory width height stride timestamp).on f).2
  | .fill colour => f.fill colour
  | .write start bytes =>
    match f.write start bytes with
    | .ok next => next
    | .error _ => f
  | .stamp timestamp => { f with timestamp }

/-- The frame after some operations. -/
def afterAll (f : Frame) (operations : List Operation) : Frame := operations.foldl after f

/-- The position belongs to the padding of a row. -/
def InPadding (f : Frame) (i : Nat) : Prop := i < f.data.size ∧ f.rowLength ≤ i % f.stride.toNat

instance (f : Frame) (i : Nat) : Decidable (f.InPadding i) := inferInstanceAs (Decidable (_ ∧ _))

end RemoteDesktop.Frame
