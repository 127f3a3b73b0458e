import RemoteDesktop.Damage
import RemoteDesktop.Encoder.TileCodec
import RemoteDesktop.Region.Merge

/-!
# The encoder

An `Encoder` turns frames into numbered updates. While it runs it has a detector of changes; a frame of
the expected size becomes an update of everything, an update of what changed, or nothing. After a start
and after a change of options the next update is a full one, and so it is after a tile was refused,
because the detector has already taken note of a frame that was not sent.

Pixels are sent in merged regions, tiles one by one.
-/

namespace RemoteDesktop

/-- What an encoder is asked to produce. -/
structure EncoderOptions where
  size : Size
  mode : Mode
  /-- Send only what changed, where possible. -/
  onlyChanges : Bool
  deriving DecidableEq, Repr, Inhabited

/-- Why a frame was not encoded. -/
inductive EncoderError where
  | alreadyRunning
  | notRunning
  /-- The frame has another size than the pictures to be sent. -/
  | sizeMismatch (frame expected : Size)
  /-- The codec refused a tile. -/
  | codec (reason : String)
  deriving DecidableEq, Repr

/-- The wording of an encoder error. -/
def EncoderError.message : EncoderError → String
  | alreadyRunning => "encoder is already running"
  | notRunning => "encoder is not running"
  | sizeMismatch frame expected =>
    s!"frame is {frame.width}x{frame.height} but encoder expects {expected.width}x{expected.height}"
  | codec reason => "tile codec error: " ++ reason

/-- Turns frames into updates. -/
structure Encoder (σ : Type) where
  options : EncoderOptions
  /-- The side of the tiles in which changes of plain pixels are found, from the next start on. -/
  pixelTile : UInt32 := 64
  /-- The detector, while the encoder runs. -/
  detector : Option Detector := none
  nextSequence : UInt64 := 0
  /-- The state of the tile codec. -/
  codecState : σ

namespace Encoder

variable {σ : Type}

/-- The side of the tiles in which updates of mode `rfx` are sent. -/
def tileSide : UInt32 := 64

/-- A stopped encoder. -/
def new (options : EncoderOptions) (codecState : σ) : Encoder σ := { options, codecState }

/-- The encoder accepts frames. -/
def isRunning (e : Encoder σ) : Bool := e.detector.isSome

/-- A detector that has seen nothing, for the current options. -/
def freshDetector (e : Encoder σ) : Detector :=
  Detector.new { tileSize := if e.options.mode = .rfx then tileSide else e.pixelTile }

/-- Start with a full update to come. -/
def start (e : Encoder σ) : Except EncoderError (Encoder σ) :=
  if e.isRunning then .error .alreadyRunning
  else .ok { e with detector := some e.freshDetector }

/-- Stop. The numbering goes on at the next start. -/
def stop (e : Encoder σ) : Encoder σ := { e with detector := none }

/-- Use other options; the next update is a full one. -/
def setOptions (options : EncoderOptions) (e : Encoder σ) : Encoder σ :=
  let e := { e with options }
  { e with detector := e.detector.map fun _ => e.freshDetector }

/-- Use other tiles for plain pixels, at least one pixel wide, from the next start on. -/
def setPixelTile (side : UInt32) (e : Encoder σ) : Encoder σ := { e with pixelTile := max side 1 }

/-- Make the next update a full one. -/
def invalidate (e : Encoder σ) : Encoder σ :=
  { e with detector := e.detector.map Detector.invalidate }

/-- Go on numbering from `sequence`. -/
def setNextSequence (sequence : UInt64) (e : Encoder σ) : Encoder σ :=
  { e with nextSequence := sequence }

/-- The regions that make up a full update. -/
def fullRegions (options : EncoderOptions) : List Region :=
  match options.mode with
  | .raw => [Region.whole options.size]
  | .rfx => Region.grid tileSide options.size

/-- The regions of an update, if there is anything to send. -/
def regions (options : EncoderOptions) (mergeDistance : UInt32) :
    Damage → Checked (Option (UpdateKind × List Region))
  | .unchanged => .ok none
  | .full => .ok (some (.full, fullRegions options))
  | .partly tiles =>
    match options.mode with
    | .raw => do return some (.diff, ← Region.merge mergeDistance tiles)
    | .rfx => .ok (some (.diff, tiles))

/-- The rectangle of a region of a frame. -/
def encodeRegion (codec : TileCodec σ) (mode : Mode) (f : Frame) (state : σ) (region : Region) :
    Checked (Except String Rect × σ) := do
  let pixels ← f.pack region
  match mode with
  | .raw => return (.ok ⟨region, pixels⟩, state)
  | .rfx =>
    match codec.encode ⟨region.width, region.height⟩ pixels state with
    | (.ok data, state) => return (.ok ⟨region, data⟩, state)
    | (.error reason, state) => return (.error reason, state)

/-- The rectangles of regions of a frame, in order, up to the first refusal. -/
def encodeRegions (codec : TileCodec σ) (mode : Mode) (f : Frame) :
    List Region → σ → Checked (Except String (List Rect) × σ)
  | [], state => .ok (.ok [], state)
  | region :: regions, state => do
    match ← encodeRegion codec mode f state region with
    | (.error reason, state) => return (.error reason, state)
    | (.ok rect, state) =>
      match ← encodeRegions codec mode f regions state with
      | (.error reason, state) => return (.error reason, state)
      | (.ok rects, state) => return (.ok (rect :: rects), state)

/-- What a frame damaged, and the detector after it. Without `onlyChanges` every frame damages
everything and the detector does not look at it. -/
def inspect (options : EncoderOptions) (detector : Detector) (f : Frame) :
    Checked (Damage × Detector) :=
  if options.onlyChanges then detector.detect f else .ok (.full, detector)

/-- Encode a frame: an update, nothing if nothing changed, or the reason why not. -/
def encode (codec : TileCodec σ) (e : Encoder σ) (f : Frame) :
    Checked (Except EncoderError (Option Update) × Encoder σ) :=
  match e.detector with
  | none => .ok (.error .notRunning, e)
  | some detector =>
    if f.size ≠ e.options.size then .ok (.error (.sizeMismatch f.size e.options.size), e)
    else do
      let (damage, detector) ← inspect e.options detector f
      match ← regions e.options detector.settings.mergeDistance damage with
      | none => return (.ok none, { e with detector := some detector })
      | some (kind, regions) =>
        match ← encodeRegions codec e.options.mode f regions e.codecState with
        | (.error reason, codecState) =>
          return (.error (.codec reason),
            { e with detector := some detector.invalidate, codecState })
        | (.ok rects, codecState) =>
          let update : Update :=
            { sequence := e.nextSequence, size := e.options.size, mode := e.options.mode, kind, rects }
          return (.ok (some update),
            { e with
              detector := some detector
              nextSequence := e.nextSequence + 1
              codecState })

end Encoder

end RemoteDesktop
