/-!
# Display errors

Why a display cannot be used.
-/

namespace RemoteDesktop

/-- Why a request to a display got no answer. -/
inductive RequestFailure where
  /-- The connection to the display broke. -/
  | connection (text : String)
  /-- The display refused the request. -/
  | refused (text : String)
  deriving DecidableEq, Repr

/-- The cause of a failure in the display's words. -/
def RequestFailure.text : RequestFailure → String
  | connection text => text
  | refused text => text

/-- Why a display cannot be used. -/
inductive DisplayError where
  /-- There is no connection to the display. -/
  | connect (text : String)
  | request (cause : RequestFailure)
  /-- The pixels of the screen do not have four bytes. -/
  | unsupportedFormat (depth bitsPerPixel : UInt8)
  | missingExtension (name : String)
  deriving DecidableEq, Repr

/-- The wording of a display error. -/
def DisplayError.message : DisplayError → String
  | connect text => "failed to connect to X display: " ++ text
  | request (.connection text) => "X11 connection error: " ++ text
  | request (.refused text) => "X11 request failed: " ++ text
  | unsupportedFormat depth bitsPerPixel =>
    s!"unsupported root visual: depth {depth}, {bitsPerPixel} bits per pixel"
  | missingExtension name => s!"X server lacks the {name} extension"

end RemoteDesktop
