import RemoteDesktop.Input.Error

/-!
# Scancodes

A keyboard sends scancodes of one byte, some after a prefix byte E0 or E1. A desktop numbers the same
keys otherwise: by their event code, or by their keycode, which is the event code plus eight. The
tables list runs of keys that follow each other in both numberings.
-/

namespace RemoteDesktop.Scancode

/-- `length` keys whose scancodes and event codes are consecutive. -/
structure Run where
  scancode : Nat
  eventCode : Nat
  length : Nat
  deriving DecidableEq, Repr

/-- A run of one key. -/
def Run.single (scancode eventCode : Nat) : Run := ⟨scancode, eventCode, 1⟩

/-- The keys without a prefix. -/
def plainKeys : List Run :=
  [⟨0x01, 1, 83⟩, .single 0x54 99, ⟨0x56, 86, 3⟩, .single 0x59 117, ⟨0x5A, 183, 12⟩,
    .single 0x70 93, .single 0x71 123, .single 0x72 122, .single 0x73 89, .single 0x79 92,
    .single 0x7B 94, .single 0x7D 124]

/-- The keys after the prefix E0. -/
def extendedKeys : List Run :=
  [.single 0x10 165, .single 0x19 163, ⟨0x1C, 96, 2⟩, .single 0x20 113, .single 0x21 140,
    .single 0x22 164, .single 0x24 166, .single 0x2E 114, .single 0x30 115, .single 0x32 172,
    .single 0x35 98, .single 0x37 210, .single 0x38 100, .single 0x46 119, ⟨0x47, 102, 3⟩,
    .single 0x4B 105, .single 0x4D 106, ⟨0x4F, 107, 5⟩, ⟨0x5B, 125, 3⟩, .single 0x5E 116,
    .single 0x5F 142, .single 0x63 143, .single 0x65 217, .single 0x66 156, .single 0x67 173,
    .single 0x68 128, .single 0x69 159, .single 0x6A 158, .single 0x6B 157, .single 0x6C 155,
    .single 0x6D 226]

/-- The event code of a scancode in a list of runs. -/
def lookup? (scancode : Nat) : List Run → Option Nat
  | [] => none
  | run :: runs =>
    if run.scancode ≤ scancode ∧ scancode < run.scancode + run.length then
      some (run.eventCode + (scancode - run.scancode))
    else lookup? scancode runs

/-- The scancode of the only key after the prefix E1, and its event code. -/
def pauseKey : Run := .single 0x1D 119

/-- The event code of a scancode; the prefix E1 is looked at before the prefix E0. -/
def eventCode (code : UInt16) (extended extended1 : Bool) : Except InputError Nat :=
  if code > 0xFF then .error (.unknownScancode code)
  else
    let found (keys : List Run) (tagged : UInt16) : Except InputError Nat :=
      match lookup? code.toNat keys with
      | some event => .ok event
      | none => .error (.unknownScancode (tagged ||| code))
    if extended1 then found [pauseKey] 0xE100
    else if extended then found extendedKeys 0xE000
    else found plainKeys 0

/-- The keycode of a scancode, if it fits a byte. -/
def keycode (code : UInt16) (extended extended1 : Bool) : Except InputError UInt8 := do
  let event ← eventCode code extended extended1
  if event + 8 < 256 then return UInt8.ofNat (event + 8) else throw (.unknownScancode code)

/-- The scancode has a key. -/
def isMapped (code : UInt16) (extended : Bool) : Bool := (eventCode code extended false).isOk

end RemoteDesktop.Scancode
