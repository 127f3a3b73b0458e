import RemoteDesktop.Input.Dispatcher

/-!
# The history of a dispatcher

Whoever does something to a dispatcher does so alone, so a run is a list of calls, no matter whose. Each call
brings the injector as it is at that time: any attempt of a run may be refused, whatever was granted before.
Dropping a dispatcher stops it, and is no call of its own.

What a viewer holds down is said here by the attempts since the last start alone, without a look at what the
dispatcher has noted (`Holdable.IsDown`).
-/

namespace RemoteDesktop

/-- A thing that can be pressed and released. -/
inductive Holdable where
  | key (keycode : UInt8)
  | keysym (keysym : UInt32)
  | button (number : UInt8)
  deriving DecidableEq, Repr

/-- The thing that an action presses or releases, and whether it presses it. -/
def Action.stroke? : Action → Option (Holdable × Bool)
  | key keycode pressed => some (.key keycode, pressed)
  | keysym symbol pressed => some (.keysym symbol, pressed)
  | button number pressed => some (.button number, pressed)
  | motion _ _ => none

/-- What an attempt pressed or released: nothing, if it was refused. -/
def Attempt.stroke? (a : Attempt) : Option (Holdable × Bool) :=
  if a.succeeded then a.action.stroke? else none

namespace Holdable

/-- The buttons that a viewer can hold down: those of the pointer, back and forward. -/
def buttons : List UInt8 := [1, 2, 3, 8, 9]

/-- A viewer can hold the thing down. The buttons of a wheel are no such things. -/
def CanBeHeld : Holdable → Prop
  | key _ | keysym _ => True
  | button number => number ∈ buttons

instance (thing : Holdable) : Decidable thing.CanBeHeld :=
  match thing with
  | key _ | keysym _ => inferInstanceAs (Decidable True)
  | button number => inferInstanceAs (Decidable (number ∈ buttons))

/-- The action that releases a thing. -/
def release : Holdable → Action
  | key keycode => .key keycode false
  | keysym symbol => .keysym symbol false
  | button number => .button number false

/-- The latest successful attempt on a thing pressed it. -/
def IsDown (thing : Holdable) (attempts : List Attempt) : Prop :=
  (attempts.filterMap Attempt.stroke?).lookup thing = some true

/-- The latest attempt to release the thing was refused. -/
def ReleaseRefused (thing : Holdable) (attempts : List Attempt) : Prop :=
  ∃ a, attempts.find? (·.action = thing.release) = some a ∧ a.succeeded = false

end Holdable

/-- A thing has been noted as held. -/
def Held.Has (held : Held) : Holdable → Prop
  | .key keycode => keycode ∈ held.keycodes
  | .keysym symbol => symbol ∈ held.keysyms
  | .button number => number ∈ held.buttons

/-- What has been noted as held is whatever the attempts left pressed, as far as it can be held. -/
def Held.Shows (held : Held) (attempts : List Attempt) : Prop :=
  ∀ thing : Holdable, held.Has thing ↔ thing.CanBeHeld ∧ thing.IsDown attempts

namespace Dispatcher

/-- Something that is done to a dispatcher. -/
inductive Call where
  | start (unavailable : Option String)
  | stop (injector : Injector)
  | resize (desktop : Size)
  | dispatch (injector : Injector) (event : InputEvent)

/-- The dispatcher after a call. A start that fails changes nothing. -/
def after (d : Dispatcher) : Call → Dispatcher
  | .start unavailable =>
    match d.start unavailable with
    | .ok started => started
    | .error _ => d
  | .stop injector => d.stop injector
  | .resize desktop => d.resize desktop
  | .dispatch injector event => (d.dispatch injector event).2

/-- The dispatcher after some calls. -/
def run (d : Dispatcher) (calls : List Call) : Dispatcher := calls.foldl after d

end Dispatcher

end RemoteDesktop
