import RemoteDesktop.Wire.View

/-!
# Updates in parts

An update that does not fit one frame travels in parts: its rectangles fill, in order, one frame after
the other, and a rectangle of plain pixels that is too large for a frame is first cut into bands of full
rows. Nothing is copied before it is written: the parts borrow the data of the update. Only the last part
is sent as an `update`, the others as `updatePart`s; an `Assembler` joins them again.
-/

namespace RemoteDesktop.Wire

/-- The room for rectangles in one part. -/
def partBudget : Nat := maxFrameLength - 64 * 1024

/-- No rectangle takes more bytes than this beside its data. -/
def rectOverhead : Nat := 32

/-- What a rectangle counts against the budget of a part. -/
def cost (r : Rect) : Nat := r.data.size + rectOverhead

/-- A rectangle that does not fit one part is cut only if its data is plain pixels, and at least one
row fits. -/
def Cuttable (mode : Mode) (r : Rect) : Prop :=
  mode = .raw ∧ r.region.width ≠ 0
    ∧ r.region.width.toNat * bytesPerPixel + rectOverhead ≤ partBudget
    ∧ r.data.size = r.region.width.toNat * bytesPerPixel * r.region.height.toNat

instance (mode : Mode) (r : Rect) : Decidable (Cuttable mode r) :=
  inferInstanceAs (Decidable (_ ∧ _ ∧ _ ∧ _))

/-- Band number `index` of `r`, if a band has `rows` rows; the last one may have fewer. -/
def band (r : Rect) (rows index : Nat) : Checked RectView := do
  let rowLength := r.region.width.toNat * bytesPerPixel
  let data : Stretch := ⟨r.data, index * (rows * rowLength), (index + 1) * (rows * rowLength)⟩
  let y ← Word.add r.region.y (UInt32.ofNat (index * rows))
  return ⟨⟨r.region.x, y, r.region.width, UInt32.ofNat (data.length / rowLength)⟩, data⟩

/-- The number of stretches of `length` bytes, the last one perhaps shorter, in `size` bytes. -/
def stretchCount (length size : Nat) : Nat := (size + length - 1) / length

/-- The bands of a rectangle, from top to bottom, each as high as a part allows. -/
def bands (r : Rect) : Checked (List RectView) :=
  let rowLength := r.region.width.toNat * bytesPerPixel
  let rows := (partBudget - rectOverhead) / rowLength
  (List.range (stretchCount (rows * rowLength) r.data.size)).mapM (band r rows)

/-- The rectangles as they travel, or nothing if one of them cannot. -/
def pieces (mode : Mode) : List Rect → Checked (Option (List RectView))
  | [] => .ok (some [])
  | r :: rects => do
    if cost r ≤ partBudget then
      return (← pieces mode rects).map (RectView.whole r :: ·)
    else if Cuttable mode r then
      let cut ← bands r
      return (← pieces mode rects).map (cut ++ ·)
    else
      return none

/-- Fill parts with rectangles, one after the other; the first part has `used` bytes taken already. -/
def fill (used : Nat) : List RectView → List RectView × List (List RectView)
  | [] => ([], [])
  | r :: rects =>
    let cost := r.data.length + rectOverhead
    if 0 < used ∧ partBudget < used + cost then
      let (first, others) := fill cost rects
      ([], (r :: first) :: others)
    else
      let (first, others) := fill (used + cost) rects
      (r :: first, others)

/-- An update with other rectangles, which are borrowed. -/
def viewOf (u : Update) (rects : List RectView) : UpdateView := ⟨u.sequence, u.size, u.mode, u.kind, rects⟩

/-- The messages of the parts of an update, given the rectangles of each. -/
def label (u : Update) : (first : List RectView) → (others : List (List RectView)) → List ServerMessageView
  | rects, [] => [.update (viewOf u rects)]
  | rects, next :: others => .updatePart (viewOf u rects) :: label u next others

/-- The messages that carry an update, or nothing if a rectangle cannot travel. -/
def parts (u : Update) : Checked (Option (List ServerMessageView)) := do
  let some rects ← pieces u.mode u.rects | return none
  let (first, others) := fill 0 rects
  return some (label u first others)

/-- The payloads that carry an update. -/
def encodeUpdate (u : Update) : Checked (Except EncodeError (List ByteArray)) := do
  match ← parts u with
  | some messages => return messages.mapM ServerMessageView.encode
  | none => return .error .sizeLimit

/-- Why a message cannot be joined to an update. -/
inductive AssemblyError where
  /-- It is no part of an update. -/
  | notAnUpdate
  /-- It is a part of another update than the parts before it. -/
  | outOfSequence
  deriving DecidableEq, Repr

/-- The wording of an assembly error. -/
def AssemblyError.message : AssemblyError → String
  | notAnUpdate => "expected Update"
  | outOfSequence => "update part out of sequence"

/-- Joins the parts of updates. -/
structure Assembler where
  /-- The parts received of an update that is not complete. -/
  pending : Option Update := none
  deriving DecidableEq

namespace Assembler

/-- Join a part to the parts before it. Parts of another update are dropped with it. -/
def join (a : Assembler) (part : Update) (closing : Bool) :
    Except AssemblyError (Option Update) × Assembler :=
  match a.pending with
  | none => if closing then (.ok (some part), {}) else (.ok none, { pending := part })
  | some first =>
    if first.sequence = part.sequence then
      let joined := { first with rects := first.rects ++ part.rects }
      if closing then (.ok (some joined), {}) else (.ok none, { pending := joined })
    else (.error .outOfSequence, {})

/-- Take one message; yields an update with its last part. -/
def push (a : Assembler) : ServerMessage → Except AssemblyError (Option Update) × Assembler
  | .update part => a.join part true
  | .updatePart part => a.join part false
  | _ => (.error .notAnUpdate, a)

end Assembler

end RemoteDesktop.Wire
