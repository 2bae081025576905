import SandboxMonitor.Monitor.Hook
import SandboxMonitor.Monitor.Launch
import SandboxMonitor.Service.Desk

/-!
# The monitor

A `Monitor` owns the service desk, the layout of the sandbox and the phase it is in.
`Monitor.arm` installs the layout once, `Monitor.prepareLaunch` checks a launch request and
hands control to the sandbox, and `Monitor.handleTrap` answers every trap after that: it
either resumes or halts for good.

    privileged --launch--> sandboxed --trap--> trapped --resume--> sandboxed
                                                  |
                                                  +--fatal--> halted
-/

namespace SandboxMonitor

/-- What the monitor is doing. -/
inductive Phase where
  | privileged
  | sandboxed
  | trapped
  | halted
deriving DecidableEq

/-- The name of a phase. -/
def Phase.text : Phase → String
  | privileged => "Privileged"
  | sandboxed => "Sandboxed"
  | trapped => "Trapped"
  | halted => "Halted"

/-- The choices that a monitor is made with. -/
structure Config where
  layout : Layout
  /-- The service window, if it is not to be the whole data region. -/
  window : Option DataWindow
  delivery : Delivery
  sentinel : UInt8
  hook : Option Hook

/-- The usual choices for a layout. -/
def Config.ofLayout (layout : Layout) : Config :=
  ⟨layout, none, .forward, defaultSentinel, none⟩

/-- A supervisor in machine mode and the sandbox that it guards. -/
structure Monitor (B : Type) where
  desk : Desk B
  layout : Layout
  /-- Whether the service window was chosen and is not to follow the data region. -/
  explicitWindow : Bool
  hook : Option Hook
  /-- The regions in force, once the monitor is armed. -/
  installed : Option Installed
  phase : Phase

namespace Monitor

variable {B : Type}

/-- A monitor that has done nothing yet.  Without a chosen window no buffer is accepted until
the monitor is armed. -/
def ofConfig (machine : Machine B) (line : SerialLine) (engine : Engine) (config : Config) :
    Monitor B where
  desk := {
    machine, line, engine
    window := config.window.getD .empty
    delivery := config.delivery
    sentinel := config.sentinel }
  layout := config.layout
  explicitWindow := config.window.isSome
  hook := config.hook
  installed := none
  phase := .privileged

/-- Runs an action on the desk. -/
def onDesk {α : Type} (a : Action (Desk B) α) : Action (Monitor B) α :=
  a.on fun ⟨desk, layout, explicitWindow, hook, installed, phase⟩ =>
    (desk, fun d => ⟨d, layout, explicitWindow, hook, installed, phase⟩)

/-- Runs an action on the machine. -/
def onMachine {α : Type} (a : Action (Machine B) α) : Action (Monitor B) α :=
  onDesk (Desk.onMachine a)

/-- Enters a phase. -/
def setPhase (phase : Phase) : Action (Monitor B) Unit := .modify fun m => { m with phase }

/-- The monitor with a service window. -/
def withWindow (m : Monitor B) (window : DataWindow) : Monitor B :=
  { m with desk := { m.desk with window } }

/-- Refuses a layout without regions, and a chosen service window outside the data region. -/
def checkLayout (m : Monitor B) : Except LaunchError Unit :=
  match m.layout.windows with
  | .error e => .error (.protection e)
  | .ok windows =>
    if m.explicitWindow && !m.desk.window.within windows.data then
      .error .serviceWindowOutsideData
    else .ok ()

/-! ### Launching -/

variable [ProtectionBank B]

/-- Takes note of the regions in force; a service window that was not chosen becomes the data
region. -/
def adopt (installed : Installed) : Action (Monitor B) Unit := do
  .modify fun m =>
    if m.explicitWindow then m else m.withWindow (.ofRegion installed.windows.data)
  let text ← .gets fun m => listing m.desk.machine.bank installed.entries
  .log .debug ("[PMP] entries:\n" ++ text)
  .modify fun m => { m with installed := some installed }

/-- Installs the layout, which is done at most once. -/
def arm : Action (Monitor B) (Except LaunchError Installed) := do
  let m ← .state
  if m.phase ≠ .privileged then return .error .alreadyLaunched
  match m.installed with
  | some installed => return .ok installed
  | none =>
    match m.checkLayout with
    | .error e => return .error e
    | .ok () =>
      match ← onMachine (Machine.onBank (installLayout m.layout)) with
      | .error e => return .error (.protection e)
      | .ok installed =>
        adopt installed
        return .ok installed

/-- Arms the monitor and checks a launch request.  A request that is found good is the last
one: from then on the monitor only answers traps. -/
def prepareLaunch (request : LaunchRequest) :
    Action (Monitor B) (Except LaunchError LaunchContext) := do
  match ← arm with
  | .error e => return .error e
  | .ok installed =>
    match LaunchContext.of installed request with
    | .error e => return .error e
    | .ok context =>
      .log .info ("[LAUNCH] sandbox entry=" ++ Text.word request.entry
        ++ " buffer=" ++ Text.word request.buffer ++ "+" ++ toString request.bufferLength.toNat)
      setPhase .sandboxed
      return .ok context

/-- Prepares a launch and enters the sandbox. -/
def launch (request : LaunchRequest) : Action (Monitor B) (Except LaunchError UserStart) := do
  match ← prepareLaunch request with
  | .error e => return .error e
  | .ok context => return .ok (← onMachine context.enter)

/-! ### Traps -/

omit [ProtectionBank B]

/-- The route of the trap that the hart has taken. -/
def route (m : Monitor B) : TrapRoute :=
  .of m.desk.machine.mcause m.desk.machine.mepc m.desk.machine.mtval

/-- Answers a call from machine mode. -/
def answerMachineCall (frame : Registers) : Action (Monitor B) (TrapOutcome × Registers) := do
  match ← .gets hook with
  | none => return (.halt (.machineCall (← .gets fun m => m.desk.machine.mepc)), frame)
  | some hook =>
    let answer := hook frame
    if answer.1 = .resume then onMachine Machine.skipInstruction
    return answer

/-- Answers a call from user mode. -/
def answerUserCall (frame : Registers) : Action (Monitor B) (TrapOutcome × Registers) := do
  match ← onDesk (Desk.serve frame) with
  | .ok frame => return (.resume, frame)
  | .error fault => return (.halt fault, frame)

/-- Answers a trap by its route. -/
def answer (route : TrapRoute) (frame : Registers) :
    Action (Monitor B) (TrapOutcome × Registers) :=
  match route with
  | .userCall => answerUserCall frame
  | .machineCall => answerMachineCall frame
  | .fatal fault => return (.halt fault, frame)

/-- Goes back to a phase, or reports a fault and halts. -/
def conclude (before : Phase) (origin : Privilege) : TrapOutcome → Action (Monitor B) Unit
  | .resume => setPhase before
  | .halt fault => do
    .log .error ("[TRAP] " ++ fault.message ++ " (from " ++ origin.text ++ " mode)")
    .log .error "[TRAP] system halted"
    setPhase .halted

/-- Answers a trap whose registers are in a frame, and answers the frame to resume with. -/
def handleTrap (frame : Registers) : Action (Monitor B) (TrapOutcome × Registers) := do
  let before ← .gets phase
  if before = .halted then return (.halt .alreadyHalted, frame)
  setPhase .trapped
  onMachine Machine.maskInterrupts
  let origin ← .gets fun m => m.desk.machine.mpp
  let route ← .gets route
  let (outcome, frame) ← answer route frame
  conclude before origin outcome
  return (outcome, frame)

/-- Halts the hart for good. -/
def halt {α : Type} : Action (Monitor B) α := do
  setPhase .halted
  .stop .halted

end Monitor

end SandboxMonitor
