import RemoteDesktop.Input.Error

/-!
# Injected actions

What an injector is asked to do to a desktop, and what it answered so far. An injector may refuse any
action for any reason; it is given as a function of the attempts made on it before.
-/

namespace RemoteDesktop

/-- A single request to an injector. -/
inductive Action where
  /-- Press or release the key of a keycode. -/
  | key (keycode : UInt8) (pressed : Bool)
  /-- Press or release the key of a symbol. -/
  | keysym (keysym : UInt32) (pressed : Bool)
  /-- Move the pointer. -/
  | motion (x y : UInt16)
  /-- Press or release a button of the pointer. -/
  | button (number : UInt8) (pressed : Bool)
  deriving DecidableEq, Repr

/-- An action an injector was asked for, and why it was refused, if it was. -/
structure Attempt where
  action : Action
  refusal : Option InputError
  deriving DecidableEq, Repr

/-- The action took place. -/
def Attempt.succeeded (a : Attempt) : Bool := a.refusal.isNone

/-- Says of each action whether it is refused, from the attempts made before, latest first. -/
abbrev Injector := List Attempt → Action → Option InputError

/-- The injector that refuses the actions of a list, and no others. -/
def Injector.refusing (actions : List Action) : Injector := fun _ action =>
  if action ∈ actions then some (.injection "refused") else none

end RemoteDesktop
