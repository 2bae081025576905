import SandboxMonitor.Text.Numeral
import SandboxMonitor.Trap.Cause

/-!
# Fatal faults and trap routes

A trap goes one of three ways: to the services when user mode calls, to a hook when machine
mode calls, and otherwise to a halt for a `FatalFault`.  `TrapRoute.of` decides from the
registers that describe the trap.
-/

namespace SandboxMonitor

/-- Why the monitor halts. -/
inductive FatalFault where
  | instructionMisaligned (mepc mtval : UInt32)
  | instructionFault (mepc mtval : UInt32)
  | illegalInstruction (mepc instruction : UInt32)
  | breakpoint (mepc : UInt32)
  | loadFault (mepc addr : UInt32)
  | storeFault (mepc addr : UInt32)
  | interrupt (code mepc : UInt32)
  | unexpected (cause mepc mtval : UInt32)
  | machineCall (mepc : UInt32)
  | unknownCall (id mepc : UInt32)
  | alreadyHalted
deriving DecidableEq

/-- What an interrupt number stands for. -/
def interruptName (code : UInt32) : String :=
  if code = 3 then "machine software"
  else if code = 7 then "machine timer"
  else if code = 11 then "machine external"
  else if 16 ≤ code ∧ code ≤ 31 then "platform (fast)"
  else "reserved"

/-- The text of a fatal fault. -/
def FatalFault.message : FatalFault → String
  | instructionMisaligned mepc mtval =>
    "instruction address misaligned: mtval=" ++ Text.word mtval ++ " mepc=" ++ Text.word mepc
  | instructionFault mepc mtval =>
    "instruction access fault: mtval=" ++ Text.word mtval ++ " mepc=" ++ Text.word mepc
  | illegalInstruction mepc instruction =>
    "illegal instruction " ++ Text.word instruction ++ " at mepc=" ++ Text.word mepc
  | breakpoint mepc => "breakpoint at mepc=" ++ Text.word mepc
  | loadFault mepc addr =>
    "load access fault: mtval=" ++ Text.word addr ++ " mepc=" ++ Text.word mepc
  | storeFault mepc addr =>
    "store access fault: mtval=" ++ Text.word addr ++ " mepc=" ++ Text.word mepc
  | interrupt code mepc =>
    "unexpected " ++ interruptName code ++ " interrupt " ++ toString code.toNat
      ++ " at mepc=" ++ Text.word mepc
  | unexpected cause mepc mtval =>
    "unexpected trap: mcause=" ++ Text.word cause ++ " mtval=" ++ Text.word mtval
      ++ " mepc=" ++ Text.word mepc
  | machineCall mepc => "ecall from M-mode at mepc=" ++ Text.word mepc
  | unknownCall id mepc =>
    "unknown syscall id " ++ toString id.toNat ++ " at mepc=" ++ Text.word mepc
  | alreadyHalted => "trap after halt"

/-- Where a trap goes. -/
inductive TrapRoute where
  | userCall
  | machineCall
  | fatal (fault : FatalFault)
deriving DecidableEq

/-- The route of a trap with the given cause, address and value. -/
def TrapRoute.of (mcause mepc mtval : UInt32) : TrapRoute :=
  match TrapCause.ofWord mcause with
  | .interrupt code => .fatal (.interrupt code mepc)
  | .exception .userCall => .userCall
  | .exception .machineCall => .machineCall
  | .exception .instructionMisaligned => .fatal (.instructionMisaligned mepc mtval)
  | .exception .instructionFault => .fatal (.instructionFault mepc mtval)
  | .exception .illegalInstruction => .fatal (.illegalInstruction mepc mtval)
  | .exception .breakpoint => .fatal (.breakpoint mepc)
  | .exception .loadFault => .fatal (.loadFault mepc mtval)
  | .exception .storeFault => .fatal (.storeFault mepc mtval)
  | .exception _ => .fatal (.unexpected mcause mepc mtval)

/-- What the monitor makes of a trap. -/
inductive TrapOutcome where
  | resume
  | halt (fault : FatalFault)
deriving DecidableEq

end SandboxMonitor
