import RemoteDesktop.Bytes

/-!
# Input errors

Why an input event was not injected.
-/

namespace RemoteDesktop

/-- Why an input operation failed. -/
inductive InputError where
  | notRunning
  | alreadyRunning
  /-- The injector could not be opened. -/
  | unavailable (reason : String)
  /-- A scancode without a key; its prefix stands in the high byte. -/
  | unknownScancode (code : UInt16)
  /-- Half of a surrogate pair, which is no character. -/
  | unsupportedCodeUnit (codeUnit : UInt16)
  /-- No keycode is left to which the symbol could be bound. -/
  | noSpareKeycode (keysym : UInt32)
  /-- The injector refused. -/
  | injection (reason : String)
  deriving DecidableEq, Repr

/-- The wording of an input error. -/
def InputError.message : InputError → String
  | notRunning => "Input dispatcher is not running"
  | alreadyRunning => "Input dispatcher is already running"
  | unavailable reason => "Input injection unavailable: " ++ reason
  | unknownScancode code => "Unknown scancode: 0x" ++ Bytes.toHex true (Bytes.beBytes 2 code.toNat)
  | unsupportedCodeUnit unit =>
    "Unsupported unicode code unit: U+" ++ Bytes.toHex true (Bytes.beBytes 2 unit.toNat)
  | noSpareKeycode keysym =>
    "No spare keycode available for keysym 0x" ++ Bytes.toHex true (Bytes.beBytes 4 keysym.toNat)
  | injection reason => "Injection failed: " ++ reason

end RemoteDesktop
