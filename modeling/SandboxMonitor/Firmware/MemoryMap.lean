import SandboxMonitor.Hart.Basic
import SandboxMonitor.Monitor.Launch

/-!
# The memory map

Where the firmware, the sandbox and their stacks lie, the layout that fences the sandbox in,
and the hart as it is at power-on.
-/

namespace SandboxMonitor.Firmware

/-- The code of the firmware. -/
def romBase : UInt32 := 0x80000000

/-- The length of the firmware's code memory. -/
def romLength : Nat := 0x10000

/-- The data and the stacks of the firmware. -/
def ramBase : UInt32 := 0x80010000

/-- The length of the firmware's data memory. -/
def ramLength : Nat := 0x8000

/-- The code of the sandbox, which the data follows. -/
def sandboxBase : UInt32 := 0x80020000

/-- The length of the sandbox's code and data memory. -/
def sandboxLength : Nat := 0x10000

/-- The number of bytes of code that the sandbox has. -/
def codeLength : UInt32 := 0x80

/-- The data of the sandbox. -/
def dataBase : UInt32 := 0x80028000

/-- The length of the sandbox's data. -/
def dataLength : UInt32 := 0x8000

/-- The buffer that the sandbox reads lines into. -/
def userBuffer : UInt32 := dataBase

/-- The length of the buffer. -/
def userBufferLength : UInt32 := 2048

/-- The top of the sandbox's stack. -/
def userStackTop : UInt32 := 0x80030000

/-- The top of the trap stack. -/
def trapStackTop : UInt32 := 0x80015000

/-- The end of the firmware's own variables, which are cleared when it starts. -/
def variablesEnd : UInt32 := 0x80011040

/-- The code that traps go to. -/
def trapVector : UInt32 := 0x80000040

/-- Code and data apart, and no peripheral. -/
def layout : Layout := .split ⟨sandboxBase, codeLength⟩ ⟨dataBase, dataLength⟩ none

/-- The launch of the sandbox at its first instruction, with its buffer in the registers. -/
def launchRequest : LaunchRequest := ⟨sandboxBase, userStackTop, userBuffer, userBufferLength⟩

/-- Memory in which the sandbox's code starts with the given octets and all else is zero. -/
def memory (code : List UInt8) : Memory where
  segments := [
    .zeros ramBase ramLength,
    (Segment.zeros sandboxBase sandboxLength).write sandboxBase code,
    .zeros romBase romLength]

/-- The hart at power-on. -/
def powerOn (code : List UInt8) (bank : PackedBank) (counters : Counters) : Hart where
  core := .reset
  machine := {
    bank, counters
    memory := memory code
    mcause := 0
    mepc := 0
    mtval := 0
    mpp := .machine
    mie := true }

/-- Clears the firmware's own variables.  Memory is zero at power-on, so all that the loop
leaves behind is that its two pointers meet at the end of the variables. -/
def clearVariables (h : Hart) : Hart :=
  { h with core := (h.core.write .t0 variablesEnd).write .t1 variablesEnd }

/-- Points traps at the trap vector and gives them their stack. -/
def installTrapVector (h : Hart) : Hart :=
  { h with core := { h.core with mscratch := trapStackTop, mtvec := trapVector } }

/-- Whether traps go to the trap vector. -/
def isVectored (h : Hart) : Bool := h.core.mtvec = trapVector

/-- Gives traps their stack and the sandbox its first registers, and returns to the mode that
the machine notes. -/
def enterUser (stackTop a0 a1 : UInt32) (h : Hart) : Hart :=
  let core := { h.core.write .t0 trapStackTop with mscratch := trapStackTop }
  let core := ((core.write .sp stackTop).write .a0 a0).write .a1 a1
  Hart.returnFromTrap { h with core }

end SandboxMonitor.Firmware
