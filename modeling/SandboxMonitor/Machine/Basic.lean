import SandboxMonitor.Action.Basic
import SandboxMonitor.Machine.Counters
import SandboxMonitor.Machine.Memory
import SandboxMonitor.Protection.Install
import SandboxMonitor.Protection.Listing

/-!
# The machine

`Machine B` is what privileged software sees of a hart whose protection registers are a bank
of type `B`: the counters, the memory and the registers that describe the last trap.  Here
are the accesses that the monitor makes, as actions on the machine.
-/

namespace SandboxMonitor

/-- The privilege modes. -/
inductive Privilege where
  | user
  | supervisor
  | machine
deriving DecidableEq

namespace Privilege

/-- The number that the architecture gives a mode. -/
def code : Privilege → Nat
  | user => 0
  | supervisor => 1
  | machine => 3

/-- The mode with a number; 2 is reserved. -/
def ofCode? : Nat → Option Privilege
  | 0 => some user
  | 1 => some supervisor
  | 3 => some machine
  | _ => none

/-- The name of a mode. -/
def text : Privilege → String
  | user => "User"
  | supervisor => "Supervisor"
  | machine => "Machine"

end Privilege

/-- A hart as privileged software sees it. -/
structure Machine (B : Type) where
  bank : B
  counters : Counters
  memory : Memory
  /-- The cause of the last trap. -/
  mcause : UInt32
  /-- The address to resume at. -/
  mepc : UInt32
  /-- What the last trap has to say beyond its cause. -/
  mtval : UInt32
  /-- The mode that the last trap came from, and that a return goes to. -/
  mpp : Privilege
  /-- Whether interrupts are enabled. -/
  mie : Bool

/-- What user mode finds when it is entered. -/
structure UserStart where
  mepc : UInt32
  mpp : Privilege
  stackTop : UInt32
  a0 : UInt32
  a1 : UInt32
deriving DecidableEq

/-- The length of the instruction whose first halfword is given. -/
def instructionLength (halfword : UInt16) : UInt32 := if halfword &&& 3 = 3 then 4 else 2

/-- The number whose octets are `bytes`, the lowest first. -/
def littleEndian : List UInt8 → Nat
  | [] => 0
  | b :: rest => b.toNat + 256 * littleEndian rest

namespace Machine

variable {B : Type}

/-- Runs an action on the protection registers. -/
def onBank {α : Type} (a : Action B α) : Action (Machine B) α :=
  a.on fun ⟨bank, counters, memory, mcause, mepc, mtval, mpp, mie⟩ =>
    (bank, fun b => ⟨b, counters, memory, mcause, mepc, mtval, mpp, mie⟩)

/-- Reads a counter register. -/
def readRegister (register : CounterRegister) : Action (Machine B) UInt32 := do
  let script ← .gets fun m => m.counters.script register
  let value := script.head 0
  .modify fun m => { m with counters := m.counters.withScript register script.advance }
  .emit (.counter register value)
  return value

/-- Reads a whole counter. -/
def readCounter (c : Counter) : Action (Machine B) UInt64 := fun _ m =>
  let r := m.counters.readWide c
  ⟨.ok r.value, { m with counters := m.counters.afterReading c r }, r.events c⟩

/-- Reads both counters, the cycles first. -/
def snapshot : Action (Machine B) Snapshot := do
  let cycles ← readCounter .cycle
  let instret ← readCounter .instret
  return ⟨cycles, instret⟩

/-- The bytes at an address, without leaving a trace. -/
def peek (addr : UInt32) (length : Nat) : Action (Machine B) (List UInt8) := do
  match ← .gets fun m => m.memory.read? addr length with
  | some bytes => return bytes
  | none => .stop (.memoryFault addr length)

/-- Writes bytes at an address, without leaving a trace. -/
def poke (addr : UInt32) (bytes : List UInt8) : Action (Machine B) Unit := fun _ m =>
  if m.memory.holds addr bytes.length then
    ⟨.ok (), { m with memory := m.memory.write addr bytes }, []⟩
  else ⟨.error (.memoryFault addr bytes.length), m, []⟩

/-- Reads bytes of the sandbox. -/
def readUser (addr length : UInt32) : Action (Machine B) (List UInt8) := do
  .emit (.read addr length)
  peek addr length.toNat

/-- Writes bytes of the sandbox. -/
def writeUser (addr : UInt32) (bytes : List UInt8) : Action (Machine B) Unit := do
  .emit (.write addr (.ofNat bytes.length))
  poke addr bytes

/-- The halfword at an address. -/
def fetchHalfword (addr : UInt32) : Action (Machine B) UInt16 := do
  return .ofNat (littleEndian (← peek addr 2))

/-- Makes the hart resume after the instruction at the address where it would resume. -/
def skipInstruction : Action (Machine B) Unit := do
  let addr ← .gets mepc
  let length := instructionLength (← fetchHalfword addr)
  .modify fun m => { m with mepc := addr + length }

/-- Sets the address to resume at. -/
def setResume (addr : UInt32) : Action (Machine B) Unit := .modify fun m => { m with mepc := addr }

/-- Sets the mode that a return goes to. -/
def setPrevious (mode : Privilege) : Action (Machine B) Unit := .modify fun m => { m with mpp := mode }

/-- Disables interrupts. -/
def maskInterrupts : Action (Machine B) Unit := .modify fun m => { m with mie := false }

end Machine

end SandboxMonitor
