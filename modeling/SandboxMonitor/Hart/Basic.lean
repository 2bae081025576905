import SandboxMonitor.Hart.PackedBank
import SandboxMonitor.Machine.Basic
import SandboxMonitor.Trap.Registers

/-!
# The hart

A `Hart` is the machine of the monitor together with what only the code below the monitor
sees: the mode, the integer registers, the scratch register, the trap vector, and the
interrupt enable that a return restores.  Here are the writes to control registers by number,
and what the hart does when a trap is taken and when it returns from one.
-/

namespace SandboxMonitor

/-- The part of a hart that the monitor does not see. -/
structure Core where
  registers : Registers
  /-- Holds the trap stack while the sandbox runs. -/
  mscratch : UInt32
  /-- Where traps go. -/
  mtvec : UInt32
  /-- Which counters user mode may read. -/
  mcounteren : UInt32
  /-- Whether interrupts were enabled before the last trap. -/
  mpie : Bool
  /-- The mode that the hart is in. -/
  mode : Privilege
deriving DecidableEq

/-- A 32-bit hart. -/
structure Hart where
  core : Core
  machine : Machine PackedBank

namespace Core

/-- Everything zero, in machine mode. -/
def reset : Core := ⟨.zeros, 0, 0, 0, false, .machine⟩

/-- The word of a register, which for register 0 is zero. -/
def read (c : Core) (r : Reg) : UInt32 := if r = .zero then 0 else c.registers.get r

/-- The core after a write to a register; a write to register 0 is lost. -/
def write (c : Core) (r : Reg) (w : UInt32) : Core :=
  if r = .zero then c else { c with registers := c.registers.set r w }

end Core

/-! ### Control registers by number -/

/-- The number of the first configuration register. -/
def pmpcfgBase : Nat := 0x3A0

/-- The number of the first address register. -/
def pmpaddrBase : Nat := 0x3B0

/-- The mode that a status word returns to; the reserved one reads as user mode. -/
def statusMode (w : UInt32) : Privilege := (Privilege.ofCode? (w.toNat / 0x800 % 4)).getD .user

namespace Hart

/-- Runs an action on the machine. -/
def onMachine {α : Type} (a : Action (Machine PackedBank) α) : Action Hart α :=
  a.on fun ⟨core, machine⟩ => (machine, fun m => ⟨core, m⟩)

/-- Runs an action on the core. -/
def onCore {α : Type} (a : Action Core α) : Action Hart α :=
  a.on fun ⟨core, machine⟩ => (core, fun c => ⟨c, machine⟩)

/-- A write to a control register; numbers that are not known here are ignored. -/
def writeControl (number : Nat) (w : UInt32) (h : Hart) : Hart :=
  let ⟨core, m⟩ := h
  match number with
  | 0x300 =>
    ⟨{ core with mpie := w.toNat.testBit 7 },
      { m with mie := w.toNat.testBit 3, mpp := statusMode w }⟩
  | 0x305 => ⟨{ core with mtvec := w }, m⟩
  | 0x306 => ⟨{ core with mcounteren := w }, m⟩
  | 0x340 => ⟨{ core with mscratch := w }, m⟩
  | 0x341 => ⟨core, { m with mepc := w }⟩
  | 0x342 => ⟨core, { m with mcause := w }⟩
  | 0x343 => ⟨core, { m with mtval := w }⟩
  | _ =>
    if pmpaddrBase ≤ number then
      ⟨core, { m with bank := m.bank.writeAddress (number - pmpaddrBase) w }⟩
    else if pmpcfgBase ≤ number then
      ⟨core, { m with bank := m.bank.writeConfig (number - pmpcfgBase) w }⟩
    else ⟨core, m⟩

/-! ### Taking traps and returning -/

/-- Lets user mode read no counter. -/
def hideCounters (h : Hart) : Hart := { h with core := { h.core with mcounteren := 0 } }

/-- Notes a cause and a value for a trap. -/
def noteCause (mcause mtval : UInt32) (h : Hart) : Hart :=
  { h with machine := { h.machine with mcause, mtval } }

/-- What the hart does when it takes a trap at an address: it notes the trap and the mode that
it was taken in, disables interrupts and goes into machine mode. -/
def takeTrap (mcause mtval mepc : UInt32) : Hart → Hart
  | ⟨core, m⟩ =>
    ⟨{ core with mpie := m.mie, mode := .machine },
      { m with mcause, mtval, mepc, mpp := core.mode, mie := false }⟩

/-- What the hart does when it returns from a trap: it goes back to the mode that is noted,
interrupts are enabled as they were, and the mode left behind is the least privileged one. -/
def returnFromTrap : Hart → Hart
  | ⟨core, m⟩ =>
    ⟨{ core with mpie := true, mode := m.mpp }, { m with mie := core.mpie, mpp := .user }⟩

end Hart

end SandboxMonitor
