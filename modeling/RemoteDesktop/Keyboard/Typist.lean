import RemoteDesktop.Display
import RemoteDesktop.Input.Action
import RemoteDesktop.Keyboard.Keymap
import RemoteDesktop.Text.Numeral

/-!
# Typing on a display

An injector whose actions are requests to a display. It types a symbol with the keycode its keymap has
for it; on a press, a symbol without a keycode is first given a spare one, which the display is then
asked to bind. Several typists may share a display, each with a keymap of its own.
-/

namespace RemoteDesktop

namespace Keymap

/-- Read the keymap of a display. -/
def load (refuse : Refusals) (d : Display) : Except DisplayError Keymap × Display :=
  match d.ask refuse .injectionVersion with
  | (some _, d) => (.error (.missingExtension "XTEST"), d)
  | (none, d) =>
    match d.ask refuse (.mapping d.mapping.firstKeycode d.keycodeCount) with
    | (some failure, d) => (.error (.request failure), d)
    | (none, d) =>
      let (perKeycode, keysyms) := d.mapping.reply d.keycodeCount.toNat
      (.ok (ofReply d.mapping.firstKeycode perKeycode keysyms), d)

/-- Capital hexadecimal digits, without needless zeros. -/
def keysymText (keysym : UInt32) : String :=
  String.ofList ((Text.Numeral.write 16 keysym.toNat).map Char.toUpper)

/-- Make a request that nothing but its success is known of. -/
def request (refuse : Refusals) (r : DisplayRequest) (d : Display) :
    Except InputError Unit × Display :=
  match d.ask refuse r with
  | (some failure, d) => (.error (.injection failure.text), d)
  | (none, d) => (.ok (), d)

/-- The keycode to press or release for a symbol. A spare keycode stays handed out for the symbol even
if the display refuses to bind it. -/
def keycodeFor (refuse : Refusals) (keysym : UInt32) (pressed : Bool) (m : Keymap) (d : Display) :
    Except InputError UInt8 × Keymap × Display :=
  match m.keycodes keysym with
  | some keycode => (.ok keycode, m, d)
  | none =>
    if pressed then
      match m.assignSpare keysym with
      | none => (.error (.noSpareKeycode keysym), m, d)
      | some (keycode, m) =>
        match request refuse (.bind keycode keysym) d with
        | (.error e, d) => (.error e, m, d)
        | (.ok (), d) => (.ok keycode, m, d)
    else (.error (.injection ("release of unbound keysym 0x" ++ keysymText keysym)), m, d)

/-- Press or release the key of a symbol. The answer is the keycode used. -/
def typeKeysym (refuse : Refusals) (keysym : UInt32) (pressed : Bool) (m : Keymap) (d : Display) :
    Except InputError UInt8 × Keymap × Display :=
  match keycodeFor refuse keysym pressed m d with
  | (.error e, m, d) => (.error e, m, d)
  | (.ok keycode, m, d) =>
    match request refuse (.key keycode pressed) d with
    | (.error e, d) => (.error e, m, d)
    | (.ok (), d) => (.ok keycode, m, d)

/-- The greatest coordinate that a request can hold. -/
def maxCoordinate : UInt16 := 32767

/-- Carry out an action on a display. -/
def perform (refuse : Refusals) (action : Action) (m : Keymap) (d : Display) :
    Except InputError Unit × Keymap × Display :=
  match action with
  | .key keycode pressed =>
    let (result, d) := request refuse (.key keycode pressed) d
    (result, m, d)
  | .keysym keysym pressed =>
    let (result, m, d) := typeKeysym refuse keysym pressed m d
    (result.map fun _ => (), m, d)
  | .motion x y =>
    let (result, d) := request refuse (.motion (min x maxCoordinate) (min y maxCoordinate)) d
    (result, m, d)
  | .button number pressed =>
    let (result, d) := request refuse (.button number pressed) d
    (result, m, d)

end Keymap

end RemoteDesktop
