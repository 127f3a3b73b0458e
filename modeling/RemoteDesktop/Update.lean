import RemoteDesktop.Frame

/-!
# Screen updates

An `Update` tells the viewer what to paint: rectangles of pixels over a picture of a given size, either
on top of what it shows already or in place of it. Updates of one session are numbered. The data of a
rectangle is its pixels, row by row, or a compressed tile, as the mode says.
-/

namespace RemoteDesktop

/-- How the data of a rectangle is written. -/
inductive Mode where
  /-- Pixels, row by row. -/
  | raw
  /-- Compressed tiles of at most 64 × 64 pixels. -/
  | rfx
  deriving DecidableEq, Repr, Inhabited

/-- The name of a mode. -/
def Mode.name : Mode → String
  | raw => "raw"
  | rfx => "rfx"

/-- The mode of a name. -/
def Mode.ofName? : String → Option Mode
  | "raw" => some raw
  | "rfx" => some rfx
  | _ => none

theorem Mode.ofName?_name (mode : Mode) : ofName? mode.name = some mode := by cases mode <;> rfl

/-- Whether an update starts a picture or changes one. -/
inductive UpdateKind where
  /-- The rectangles cover the whole picture. -/
  | full
  /-- The rectangles go on top of the picture shown. -/
  | diff
  deriving DecidableEq, Repr, Inhabited

/-- The name of a kind of update. -/
def UpdateKind.name : UpdateKind → String
  | full => "full"
  | diff => "diff"

/-- A rectangle of an update. -/
structure Rect where
  region : Region
  data : ByteArray
  deriving DecidableEq, Inhabited

/-- A numbered screen update. -/
structure Update where
  sequence : UInt64
  size : Size
  mode : Mode
  kind : UpdateKind
  rects : List Rect
  deriving DecidableEq, Inhabited

/-- The number of data bytes in an update. -/
def Update.payloadLength (u : Update) : Nat := u.rects.foldr (fun r n => r.data.size + n) 0

end RemoteDesktop
