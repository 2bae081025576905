import SandboxMonitor.Trap.Fault
import SandboxMonitor.Trap.Registers

/-!
# Machine-call hooks

A `Hook` answers the calls that machine mode makes: it may change the frame and either
resumes or halts.  Here are three simple ones.
-/

namespace SandboxMonitor

/-- What to do with a call from machine mode. -/
def Hook : Type := Registers → TrapOutcome × Registers

namespace Hook

/-- Adds one to `a0` and resumes. -/
def count : Hook := fun frame => (.resume, frame.set .a0 (frame.get .a0 + 1))

/-- Puts the number of the call into `a0` and halts at the address in `a1`. -/
def stop : Hook := fun frame =>
  (.halt (.breakpoint (frame.get .a1)), frame.set .a0 (frame.get .a7))

/-- Clears every register and resumes. -/
def wipe : Hook := fun _ => (.resume, .zeros)

end Hook

end SandboxMonitor
