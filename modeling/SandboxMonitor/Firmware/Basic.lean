import SandboxMonitor.Firmware.Console
import SandboxMonitor.Firmware.Program
import SandboxMonitor.Hart.TrapVector
import SandboxMonitor.Monitor.Basic

/-!
# The firmware

The firmware is a monitor on a hart, with the console for a serial line.  `boot` takes it
from power-on into the sandbox; `trap` takes one trap through the trap vector, the monitor
and back; `run` lets the sandbox program run and answers its calls.  What the program may not
access ends in a trap as well.
-/

namespace SandboxMonitor

/-- A monitor, and the part of its hart that it does not see. -/
structure Firmware where
  core : Core
  monitor : Monitor PackedBank

namespace Firmware

/-- The firmware on a hart at power-on. -/
def ofHart : Hart → Firmware
  | ⟨core, machine⟩ =>
    ⟨core, .ofConfig machine ⟨[], false, true⟩ ⟨⟨[digest]⟩⟩ (.ofLayout layout)⟩

/-- Runs an action on the hart. -/
def onHart {α : Type} (a : Action Hart α) : Action Firmware α :=
  a.on fun ⟨core, ⟨⟨machine, line, engine, window, delivery, sentinel⟩,
      layout, explicitWindow, hook, installed, phase⟩⟩ =>
    (⟨core, machine⟩, fun ⟨core, machine⟩ =>
      ⟨core, ⟨⟨machine, line, engine, window, delivery, sentinel⟩,
        layout, explicitWindow, hook, installed, phase⟩⟩)

/-- Runs an action on the monitor. -/
def onMonitor {α : Type} (a : Action (Monitor PackedBank) α) : Action Firmware α :=
  a.on fun ⟨core, monitor⟩ => (monitor, fun m => ⟨core, m⟩)

/-- The hart that the firmware runs on. -/
def hart (fw : Firmware) : Hart := ⟨fw.core, fw.monitor.desk.machine⟩

/-- Adds bytes to what the console has received. -/
def feed (bytes : List UInt8) : Action Firmware Unit :=
  onMonitor (Monitor.onDesk (Desk.onLine (.modify fun line => line.feed bytes)))

/-! ### Booting -/

/-- A line of the banner's frame. -/
def rule : String := String.ofList (List.replicate 64 '=')

/-- Says what this is. -/
def banner : Action Firmware Unit := do
  .log .info rule
  .log .info "  RISC-V TEE gate: PMP sandbox + ecall services"
  .log .info rule

/-- Takes the hart from power-on into the sandbox, or halts when the launch is refused. -/
def boot : Action Firmware UserStart := do
  onHart (.modify Hart.hideCounters)
  onHart (.modify clearVariables)
  onHart (.modify installTrapVector)
  banner
  match ← onMonitor (Monitor.prepareLaunch launchRequest) with
  | .ok context =>
    let start ← onMonitor (Monitor.onMachine context.enter)
    onHart (.modify (enterUser start.stackTop start.a0 start.a1))
    return start
  | .error e =>
    .log .error ("[LAUNCH] refused: " ++ e.message)
    onMonitor Monitor.halt

/-! ### Traps -/

/-- The handler that the trap vector calls: it lets the monitor answer the trap whose frame
is at the address in `a0`. -/
def handle : Action Firmware Unit := do
  let addr ← onHart (Hart.readReg .a0)
  let frame ← onHart (Hart.loadFrame addr)
  match ← onMonitor (Monitor.handleTrap frame) with
  | (.resume, frame) => onHart (Hart.storeFrame addr frame)
  | (.halt _, _) => onMonitor Monitor.halt

/-- Goes to where traps go, of which only the trap vector is known here. -/
def followVector : Action Firmware Unit := do
  if ← .gets fun fw => !isVectored fw.hart then .stop .astray

/-- Takes a trap in the mode that the hart is in, and returns from it. -/
def trap (mcause mtval mepc : UInt32) : Action Firmware Unit := do
  onHart (.modify (Hart.takeTrap mcause mtval mepc))
  followVector
  onHart TrapVector.enter
  handle
  onHart TrapVector.leave

/-- What came of a trap that was answered. -/
structure Answered where
  /-- The registers that differ from those before the trap. -/
  changes : List (Reg × UInt32)
  /-- Where the hart would resume. -/
  mepc : UInt32
deriving DecidableEq

/-- Takes a trap with a mode and registers of its own instead of the program's, which are put
back afterwards together with the address where the program goes on. -/
def interpose (mcause mtval mepc : UInt32) (origin : Privilege) (registers : Registers) :
    Action Firmware Answered := do
  let own ← .gets fun fw => fw.core.registers
  let mode ← .gets fun fw => fw.core.mode
  let resume ← .gets fun fw => fw.hart.machine.mepc
  let registers := registers.set .zero 0
  onHart (Hart.onCore (.modify fun c => { c with registers, mode := origin }))
  trap mcause mtval mepc
  let answered ← .gets fun fw =>
    ⟨fw.core.registers.changes registers, fw.hart.machine.mepc⟩
  onHart (Hart.onCore (.modify fun c => { c with registers := own, mode }))
  onMonitor (Monitor.onMachine (Machine.setResume resume))
  return answered

/-! ### Running the sandbox -/

/-- Runs the program from where the hart resumes until it is interrupted, and answers at which
address and by what.  Of the code elsewhere nothing is known but whether it may be fetched. -/
def runProgram : Action Firmware (Option (UInt32 × Interruption)) := do
  let addr ← .gets fun fw => fw.hart.machine.mepc
  match Program.indexOf? addr with
  | some index => do
    let interrupted ← onHart (Program.advance Program.steps.length index)
    return interrupted.map fun (index, why) => (Program.address index, why)
  | none => do
    let fetches ← .gets fun fw => fw.hart.permits (.fetch addr)
    return if fetches then none else some (addr, .refusal (.fetch addr))

/-- Runs the program until it is interrupted, and takes the trap. -/
def nextTrap : Action Firmware Unit := do
  match ← runProgram with
  | none => .stop .astray
  | some (addr, why) =>
    let mode ← .gets fun fw => fw.core.mode
    trap (why.cause mode) why.value addr

/-- Runs the program until some number of its calls have been answered. -/
def run : Nat → Action Firmware Unit
  | 0 => pure ()
  | calls + 1 => do
    nextTrap
    run calls

/-- A number of calls after which the console must have run dry: a byte that ends a line is
followed by four more calls, any other byte by at most one. -/
def callsToRunDry (line : SerialLine) : Nat := 5 * (line.queue.length + 1)

/-- Runs the program until it waits for a byte. -/
def runDry : Action Firmware Unit := do
  run (← .gets fun fw => callsToRunDry fw.monitor.desk.line)

end Firmware

end SandboxMonitor
