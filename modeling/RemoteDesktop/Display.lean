import RemoteDesktop.Display.Error
import RemoteDesktop.Keyboard.Mapping
import RemoteDesktop.Region

/-!
# Displays

A `Display` is the part of a display server that capture and typing depend on: the size of its screen,
its keyboard mapping, and the requests made to it so far. A display may refuse any request; a refused
request is recorded but changes nothing.
-/

namespace RemoteDesktop

/-- What a display can be asked for. -/
inductive DisplayRequest where
  /-- The size of the screen. -/
  | geometry
  /-- The pixels of the upper left part of the screen. -/
  | image (size : Size)
  /-- The version of the extension that injects input. -/
  | injectionVersion
  /-- The symbols of `count` keycodes. -/
  | mapping (firstKeycode count : UInt8)
  /-- Let a keycode type a symbol, with and without shift. -/
  | bind (keycode : UInt8) (keysym : UInt32)
  /-- Press or release a key. -/
  | key (keycode : UInt8) (pressed : Bool)
  /-- Press or release a button of the pointer. -/
  | button (number : UInt8) (pressed : Bool)
  /-- Move the pointer. -/
  | motion (x y : UInt16)
  deriving DecidableEq, Repr

/-- Says which requests are refused, and why. -/
abbrev Refusals := DisplayRequest → Option RequestFailure

/-- The refusals of a display that grants everything. -/
def Refusals.never : Refusals := fun _ => none

/-- The layout of a display's pixels, as it is announced on connecting. -/
structure PixelLayout where
  /-- The depth of the screen in bits. -/
  depth : UInt8
  /-- Depths in use, each with the bits of a pixel in memory. -/
  formats : List (UInt8 × UInt8)
  deriving DecidableEq, Repr

/-- Only screens whose pixels take four bytes can be captured. -/
def PixelLayout.check (layout : PixelLayout) : Except DisplayError Unit :=
  let bitsPerPixel := (layout.formats.lookup layout.depth).getD 0
  if bitsPerPixel = 32 then .ok () else .error (.unsupportedFormat layout.depth bitsPerPixel)

/-- A display and what was asked of it. -/
structure Display where
  /-- The size of the screen. -/
  size : Size
  /-- The size of the screen when the connection was made. -/
  initialSize : Size
  mapping : KeyboardMapping
  lastKeycode : UInt8
  /-- The requests made, latest first. -/
  requests : List DisplayRequest := []
  deriving DecidableEq, Repr

namespace Display

/-- What a granted request does. -/
def carryOut (d : Display) : DisplayRequest → Display
  | .bind keycode keysym => { d with mapping := d.mapping.bind keycode keysym }
  | _ => d

/-- Make a request. -/
def ask (refuse : Refusals) (request : DisplayRequest) (d : Display) :
    Option RequestFailure × Display :=
  let d := { d with requests := request :: d.requests }
  match refuse request with
  | some failure => (some failure, d)
  | none => (none, d.carryOut request)

/-- The size of the screen; if the display does not say, the size it had at first. -/
def desktopSize (refuse : Refusals) (d : Display) : Size × Display :=
  match d.ask refuse .geometry with
  | (none, d) => (d.size, d)
  | (some _, d) => (d.initialSize, d)

/-- The number of keycodes of the display, as far as a request can ask for them. -/
def keycodeCount (d : Display) : UInt8 :=
  UInt8.ofNat (min 255 (d.lastKeycode.toNat - d.mapping.firstKeycode.toNat + 1))

end Display

end RemoteDesktop
