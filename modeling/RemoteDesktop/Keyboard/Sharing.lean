import RemoteDesktop.Keyboard.Typist

/-!
# Typists that share a display

Each typist of a display has a keymap of its own, read when it joined. A typist has one key in hand at a time, but
between two of its requests the others may do anything: a key is pressed or released in strokes, and a stroke makes
one request at a time.

The requests to bind a keycode are noted, whether they were granted or not; no act looks at them.
-/

namespace RemoteDesktop

/-- A request to let a keycode type a symbol. -/
structure Binding where
  /-- Who asked for it. -/
  typist : Nat
  keycode : UInt8
  keysym : UInt32
  granted : Bool
  deriving DecidableEq, Repr

/-- The latest of some bindings of a keycode, apart from the first few of all bindings. They are listed latest first. -/
def Binding.latest (since : Nat) (bindings : List Binding) (keycode : UInt8) : Option Binding :=
  (bindings.take (bindings.length - since)).find? (·.keycode == keycode)

/-- The binding that a request asks for. -/
def DisplayRequest.binding? (refuse : Refusals) (typist : Nat) : DisplayRequest → Option Binding
  | bind keycode keysym => some ⟨typist, keycode, keysym, (refuse (.bind keycode keysym)).isNone⟩
  | _ => none

namespace Keymap

/-- What is left of the press or release of a key. -/
inductive Stroke where
  /-- The display has yet to bind the spare keycode that was handed out for a symbol to be pressed. -/
  | binding (keycode : UInt8) (keysym : UInt32)
  /-- The key of the symbol has yet to be pressed or released. -/
  | key (keycode : UInt8) (keysym : UInt32) (pressed : Bool)
  deriving DecidableEq, Repr

/-- Take the key of a symbol in hand. -/
def take (keysym : UInt32) (pressed : Bool) (m : Keymap) : Except InputError (Stroke × Keymap) :=
  match m.keycodes keysym with
  | some keycode => .ok (.key keycode keysym pressed, m)
  | none =>
    if pressed then
      match m.assignSpare keysym with
      | none => .error (.noSpareKeycode keysym)
      | some (keycode, m) => .ok (.binding keycode keysym, m)
    else .error (.injection ("release of unbound keysym 0x" ++ keysymText keysym))

namespace Stroke

/-- The symbol whose key is in hand. -/
def keysym : Stroke → UInt32
  | binding _ keysym | key _ keysym _ => keysym

/-- The key is to be pressed. -/
def pressed : Stroke → Bool
  | binding _ _ => true
  | key _ _ pressed => pressed

/-- Make the next request of a stroke: it is answered, or there is one more to make. -/
def proceed (refuse : Refusals) (d : Display) : Stroke → (Except InputError UInt8 ⊕ Stroke) × Display
  | binding keycode keysym =>
    match request refuse (.bind keycode keysym) d with
    | (.error e, d) => (.inl (.error e), d)
    | (.ok (), d) => (.inr (.key keycode keysym true), d)
  | key keycode _ pressed =>
    match request refuse (.key keycode pressed) d with
    | (.error e, d) => (.inl (.error e), d)
    | (.ok (), d) => (.inl (.ok keycode), d)

end Stroke

end Keymap

/-- A typist. -/
structure Typist where
  keymap : Keymap
  /-- The key in hand. -/
  stroke : Option Keymap.Stroke
  /-- How many requests to bind a keycode there had been when the typist joined. -/
  since : Nat

/-- The answer to a press or release. -/
structure Typed where
  typist : Nat
  keysym : UInt32
  pressed : Bool
  /-- The keycode used, if all went well. -/
  result : Except InputError UInt8

/-- A display and its typists. -/
structure SharedDisplay where
  display : Display
  /-- Those who have joined, in order. -/
  typists : List Typist
  /-- The requests to bind a keycode, latest first. -/
  bindings : List Binding

namespace SharedDisplay

/-- A display that nobody has joined. -/
def unused (d : Display) : SharedDisplay := ⟨d, [], []⟩

/-- What remains after a typist has made some requests: the typist and the display as they are then, and a note of
the bindings that were asked for. -/
def settle (refuse : Refusals) (i : Nat) (t : Typist) (d : Display) (s : SharedDisplay) : SharedDisplay where
  display := d
  typists := s.typists.set i t
  bindings :=
    (d.requests.take (d.requests.length - s.display.requests.length)).filterMap (·.binding? refuse i) ++ s.bindings

/-- Somebody reads the keymap of the display, and is a typist from then on. -/
def join (refuse : Refusals) (s : SharedDisplay) : SharedDisplay :=
  match Keymap.load refuse s.display with
  | (.error _, d) => { s with display := d }
  | (.ok m, d) => { s with display := d, typists := s.typists ++ [⟨m, none, s.bindings.length⟩] }

/-- A typist presses or releases the key of a symbol while the others wait. -/
def type (refuse : Refusals) (i : Nat) (keysym : UInt32) (pressed : Bool) (s : SharedDisplay) :
    Option Typed × SharedDisplay :=
  match s.typists[i]? with
  | some ⟨m, none, since⟩ =>
    match m.typeKeysym refuse keysym pressed s.display with
    | (result, m, d) => (some ⟨i, keysym, pressed, result⟩, s.settle refuse i ⟨m, none, since⟩ d)
  | _ => (none, s)

/-- Something that is done on a shared display. -/
inductive Act where
  | join
  /-- A typist whose hand is free takes the key of a symbol in hand. -/
  | take (typist : Nat) (keysym : UInt32) (pressed : Bool)
  /-- A typist makes the next request for the key in hand. -/
  | proceed (typist : Nat)
  deriving DecidableEq, Repr

/-- Do one thing. A typist that cannot do it does nothing. -/
def act (refuse : Refusals) (s : SharedDisplay) : Act → Option Typed × SharedDisplay
  | .join => (none, s.join refuse)
  | .take i keysym pressed =>
    match s.typists[i]? with
    | some ⟨m, none, since⟩ =>
      match m.take keysym pressed with
      | .error e => (some ⟨i, keysym, pressed, .error e⟩, s)
      | .ok (stroke, m) => (none, { s with typists := s.typists.set i ⟨m, some stroke, since⟩ })
    | _ => (none, s)
  | .proceed i =>
    match s.typists[i]? with
    | some ⟨m, some stroke, since⟩ =>
      match stroke.proceed refuse s.display with
      | (.inl result, d) =>
        (some ⟨i, stroke.keysym, stroke.pressed, result⟩, s.settle refuse i ⟨m, none, since⟩ d)
      | (.inr next, d) => (none, s.settle refuse i ⟨m, some next, since⟩ d)
    | _ => (none, s)

/-- A shared display after some acts, none of whose requests is refused. -/
def granting (s : SharedDisplay) (acts : List Act) : SharedDisplay :=
  acts.foldl (fun s a => (s.act .never a).2) s

/-- A shared display after some acts, each with the requests that the display refuses meanwhile. -/
def after (s : SharedDisplay) (history : List (Refusals × Act)) : SharedDisplay :=
  history.foldl (fun s (refuse, a) => (s.act refuse a).2) s

/-- A press or release, with the requests that the display refuses meanwhile. -/
structure Keystroke where
  refuse : Refusals
  keysym : UInt32
  pressed : Bool

/-- A shared display after a typist has pressed and released some keys. -/
def typing (s : SharedDisplay) (i : Nat) (strokes : List Keystroke) : SharedDisplay :=
  strokes.foldl (fun s k => (s.type k.refuse i k.keysym k.pressed).2) s

end SharedDisplay

end RemoteDesktop
