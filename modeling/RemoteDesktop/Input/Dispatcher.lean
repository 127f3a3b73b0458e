import RemoteDesktop.Input.Action
import RemoteDesktop.Input.Event
import RemoteDesktop.Input.Keysym
import RemoteDesktop.Input.Scancode
import RemoteDesktop.Region

/-!
# The input dispatcher

A `Dispatcher` turns the events of one viewer into actions of an injector and remembers what the
viewer holds down. An event is first planned, as a list of actions in order; the actions are then
tried one by one up to the first refusal. Whatever is held when the dispatcher stops is released.

Wheel buttons are pressed and released in one event and are never recorded as held.
-/

namespace RemoteDesktop

/-- What a viewer holds down, each key, symbol and button once, in ascending order. -/
structure Held where
  keycodes : List UInt8 := []
  keysyms : List UInt32 := []
  buttons : List UInt8 := []
  deriving DecidableEq, Repr, Inhabited

/-- The button belongs to a wheel. -/
def isWheelButton (number : UInt8) : Bool := 4 ≤ number && number ≤ 7

namespace Held

/-- An ascending list with one more element, which is put in its place unless it is there already. -/
def insert {α : Type} [DecidableEq α] [LT α] [DecidableLT α] (thing : α) : List α → List α
  | [] => [thing]
  | first :: rest =>
    if thing = first then first :: rest
    else if thing < first then thing :: first :: rest
    else first :: insert thing rest

theorem mem_insert {α : Type} [DecidableEq α] [LT α] [DecidableLT α] {thing other : α}
    {held : List α} : other ∈ insert thing held ↔ other = thing ∨ other ∈ held := by
  induction held with
  | nil => simp [insert]
  | cons first rest ih =>
    rw [insert]
    split
    next h => simp [h]
    next => split <;> simp [ih, or_left_comm]

/-- The things held after one of them is pressed or released. -/
def note {α : Type} [DecidableEq α] [LT α] [DecidableLT α] (held : List α) (thing : α)
    (pressed : Bool) : List α :=
  if pressed then insert thing held else held.filter (· ≠ thing)

/-- Whatever is pressed is held, and whatever is released is not; all else stays as it is. -/
theorem mem_note {α : Type} [DecidableEq α] [LT α] [DecidableLT α] {held : List α}
    {thing other : α} {pressed : Bool} :
    other ∈ note held thing pressed
      ↔ if other = thing then pressed = true else other ∈ held := by
  unfold note
  split
  next h => rw [mem_insert]; split <;> simp_all
  next h => split <;> simp_all

/-- What is held after an action took place. -/
def after (held : Held) : Action → Held
  | .key keycode pressed => { held with keycodes := note held.keycodes keycode pressed }
  | .keysym keysym pressed => { held with keysyms := note held.keysyms keysym pressed }
  | .motion _ _ => held
  | .button number pressed =>
    if isWheelButton number then held
    else { held with buttons := note held.buttons number pressed }

/-- The releases of everything held. -/
def releases (held : Held) : List Action :=
  held.keycodes.map (Action.key · false) ++ held.keysyms.map (Action.keysym · false)
    ++ held.buttons.map (Action.button · false)

end Held

/-- The area within which the pointer moves: at least one pixel each way, so that it has a last column
and a last row. -/
structure Bounds where
  width : UInt16
  height : UInt16
  deriving DecidableEq, Repr, Inhabited

namespace Bounds

/-- A length in pixels, brought into the range from 1 to 65535. -/
def side (length : UInt32) : UInt16 := UInt16.ofNat (max 1 (min length.toNat 65535))

/-- The bounds of a desktop. -/
def ofSize (size : Size) : Bounds := ⟨side size.width, side size.height⟩

/-- The nearest coordinate inside a side. -/
def clamp (side coordinate : UInt16) : UInt16 := UInt16.ofNat (min coordinate.toNat (side.toNat - 1))

end Bounds

namespace InputEvent

/-- The pointer buttons named in a pointer word, in the order in which they act. -/
def pointerButtons : List (Flag × UInt8) :=
  [(PointerFlags.button1, 1), (PointerFlags.button2, 3), (PointerFlags.button3, 2)]

/-- The pointer buttons named in an extended pointer word. -/
def extendedButtons : List (Flag × UInt8) :=
  [(ExtendedPointerFlags.button1, 8), (ExtendedPointerFlags.button2, 9)]

/-- The actions of the buttons that a word names. -/
def buttonActions (buttons : List (Flag × UInt8)) (word : UInt16) (pressed : Bool) : List Action :=
  (buttons.filter (·.1.isSet word)).map fun b => .button b.2 pressed

/-- The wheel's rotation for one click. -/
def wheelDelta : Nat := 120

/-- The button of a wheel that turned. -/
def wheelButton (horizontal : Bool) (rotation : Int) : UInt8 :=
  if horizontal then (if rotation > 0 then 7 else 6) else (if rotation > 0 then 4 else 5)

/-- The clicks of a wheel: a press and a release for each, at least one unless it did not turn. -/
def scrollActions (word : UInt16) : List Action :=
  let rotation := PointerFlags.rotation word
  let button := wheelButton (PointerFlags.horizontalWheel.isSet word) rotation
  let clicks := if rotation = 0 then 0 else max 1 (rotation.natAbs / wheelDelta)
  (List.replicate clicks [Action.button button true, .button button false]).flatten

/-- The code unit is half of a surrogate pair. -/
def isSurrogate (codeUnit : UInt16) : Bool := 0xD800 ≤ codeUnit && codeUnit ≤ 0xDFFF

/-- The actions of an event, in order. -/
def actions (bounds : Bounds) : InputEvent → Except InputError (List Action)
  | .scancode flags code => do
    let keycode ← Scancode.keycode code (KeyboardFlags.extended.isSet flags)
      (KeyboardFlags.extended1.isSet flags)
    return [.key keycode (!KeyboardFlags.release.isSet flags)]
  | .unicode flags codeUnit =>
    if isSurrogate codeUnit then .error (.unsupportedCodeUnit codeUnit)
    else .ok [.keysym (Keysym.ofCodePoint codeUnit.toUInt32) (!KeyboardFlags.release.isSet flags)]
  | .pointer flags x y =>
    if PointerFlags.wheel.isSet flags || PointerFlags.horizontalWheel.isSet flags then
      .ok (scrollActions flags)
    else
      let buttons := buttonActions pointerButtons flags (PointerFlags.down.isSet flags)
      let moves := PointerFlags.move.isSet flags || !buttons.isEmpty
      .ok ((if moves then [.motion (Bounds.clamp bounds.width x) (Bounds.clamp bounds.height y)]
        else []) ++ buttons)
  | .extendedPointer flags x y =>
    .ok (.motion (Bounds.clamp bounds.width x) (Bounds.clamp bounds.height y)
      :: buttonActions extendedButtons flags (ExtendedPointerFlags.down.isSet flags))

end InputEvent

/-- Turns the events of a viewer into actions. -/
structure Dispatcher where
  bounds : Bounds
  /-- What is held, while the dispatcher runs. -/
  held : Option Held := none
  /-- The attempts made since the last start, latest first. -/
  attempts : List Attempt := []
  /-- The number of events all of whose actions took place. Like the next, it has no bound: nobody sends 2⁶⁴
  events. -/
  injected : Nat := 0
  /-- The number of events that failed. -/
  failed : Nat := 0
  deriving DecidableEq, Repr, Inhabited

namespace Dispatcher

/-- A stopped dispatcher for a desktop of the given size. -/
def new (desktop : Size) : Dispatcher := { bounds := .ofSize desktop }

/-- The dispatcher accepts events. -/
def isRunning (d : Dispatcher) : Bool := d.held.isSome

/-- Set the area within which the pointer moves. -/
def resize (d : Dispatcher) (desktop : Size) : Dispatcher := { d with bounds := .ofSize desktop }

/-- Start with nothing held. `unavailable` is the reason why no injector can be opened, if there is
one. -/
def start (d : Dispatcher) (unavailable : Option String) : Except InputError Dispatcher :=
  if d.isRunning then .error .alreadyRunning
  else
    match unavailable with
    | some reason => .error (.unavailable reason)
    | none => .ok { d with held := some {}, attempts := [] }

/-- Try actions in order up to the first refusal. What took place is noted as held. -/
def perform (injector : Injector) : List Action → Held → List Attempt →
    Except InputError Unit × Held × List Attempt
  | [], held, attempts => (.ok (), held, attempts)
  | action :: rest, held, attempts =>
    let refusal := injector attempts action
    let attempts := ⟨action, refusal⟩ :: attempts
    match refusal with
    | some e => (.error e, held, attempts)
    | none => perform injector rest (held.after action) attempts

/-- Carry out an event. A stopped dispatcher refuses it without counting it. -/
def dispatch (d : Dispatcher) (injector : Injector) (event : InputEvent) :
    Except InputError Unit × Dispatcher :=
  match d.held with
  | none => (.error .notRunning, d)
  | some held =>
    match event.actions d.bounds with
    | .error e => (.error e, { d with failed := d.failed + 1 })
    | .ok actions =>
      let (result, held, attempts) := perform injector actions held d.attempts
      let counted :=
        match result with
        | .ok () => { d with injected := d.injected + 1 }
        | .error _ => { d with failed := d.failed + 1 }
      (result, { counted with held := some held, attempts })

/-- Try every action, whichever are refused. -/
def attemptAll (injector : Injector) (actions : List Action) (attempts : List Attempt) :
    List Attempt :=
  actions.foldl (fun attempts action => ⟨action, injector attempts action⟩ :: attempts) attempts

/-- Release everything held and stop. Stopping again does nothing. -/
def stop (d : Dispatcher) (injector : Injector) : Dispatcher :=
  match d.held with
  | none => d
  | some held =>
    { d with held := none, attempts := attemptAll injector held.releases d.attempts }

end Dispatcher

end RemoteDesktop
