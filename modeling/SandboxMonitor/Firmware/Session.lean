import SandboxMonitor.Firmware.Basic

/-!
# Sessions

A `Session` is a firmware in use from outside: bytes are fed to its console, the sandbox
runs for a while, traps are interposed, memory is looked at.  When the firmware halts or
waits for ever, or the hart has left the code that is known, the session has ended, and then
only its state can be looked at.
-/

namespace SandboxMonitor

/-- A firmware in use. -/
structure Session where
  firmware : Firmware
  /-- Whether the firmware does not go on. -/
  ended : Bool

/-- How a turn of a session ends. -/
inductive TurnEnd where
  | resumed
  | limit
  | idle
  | halted
  | astray
  | off
deriving DecidableEq

namespace TurnEnd

/-- The name of an ending. -/
def text : TurnEnd → String
  | resumed => "resumed"
  | limit => "limit"
  | idle => "idle"
  | halted => "halted"
  | astray => "astray"
  | off => "off"

/-- The ending for an action that stopped. -/
def ofStop : Stop → TurnEnd
  | .idle => idle
  | .halted => halted
  | .memoryFault _ _ => halted
  | .astray => astray

end TurnEnd

namespace Session

/-- Runs an action on the firmware. -/
def onFirmware {α : Type} (a : Action Firmware α) : Action Session α :=
  a.on fun ⟨firmware, ended⟩ => (firmware, fun fw => ⟨fw, ended⟩)

/-- Runs an action on the firmware; when it stops, the session has ended. -/
def turn {α : Type} (a : Action Firmware α) : Action Session (Except TurnEnd α) := do
  if ← .gets ended then return .error .off
  match ← onFirmware a.attempt with
  | .ok v => return .ok v
  | .error why =>
    .modify fun s => { s with ended := true }
    return .error (.ofStop why)

/-- A session on a hart at power-on. -/
def powerOn (bank : PackedBank) (counters : Counters) : Session :=
  ⟨.ofHart (Firmware.powerOn Firmware.Program.code bank counters), false⟩

/-- Boots the firmware. -/
def boot : Action Session (Except TurnEnd UserStart) := turn Firmware.boot

/-- Feeds bytes to the console and lets the sandbox run until some number of calls have been
answered, or until it waits. -/
def run (calls : Option Nat) (bytes : List UInt8) : Action Session TurnEnd := do
  let go : Action Firmware Unit :=
    match calls with
    | some n => Firmware.run n
    | none => Firmware.runDry
  match ← turn (Firmware.feed bytes >>= fun _ => go) with
  | .ok () => return .limit
  | .error ending => return ending

/-- Feeds bytes to the console and interposes a trap, at the address where the program goes
on unless another is given. -/
def interpose (mcause mtval : UInt32) (mepc : Option UInt32) (origin : Privilege)
    (registers : Registers) (bytes : List UInt8) :
    Action Session (Except TurnEnd Firmware.Answered) := do
  let mepc := mepc.getD (← .gets fun s => s.firmware.hart.machine.mepc)
  turn (Firmware.feed bytes >>= fun _ => Firmware.interpose mcause mtval mepc origin registers)

end Session

end SandboxMonitor
