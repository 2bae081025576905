/-!
# Trap causes

`TrapCause.ofWord` decodes a cause register: bit 31 tells an interrupt from an exception and
the other bits number it.
-/

namespace SandboxMonitor

/-- The synchronous exceptions. -/
inductive ExceptionCode where
  | instructionMisaligned
  | instructionFault
  | illegalInstruction
  | breakpoint
  | loadMisaligned
  | loadFault
  | storeMisaligned
  | storeFault
  | userCall
  | supervisorCall
  | machineCall
  | instructionPageFault
  | loadPageFault
  | storePageFault
  | unknown (code : UInt32)
deriving DecidableEq

/-- The exception with a number. -/
def ExceptionCode.ofCode (code : UInt32) : ExceptionCode :=
  match code.toNat with
  | 0 => instructionMisaligned
  | 1 => instructionFault
  | 2 => illegalInstruction
  | 3 => breakpoint
  | 4 => loadMisaligned
  | 5 => loadFault
  | 6 => storeMisaligned
  | 7 => storeFault
  | 8 => userCall
  | 9 => supervisorCall
  | 11 => machineCall
  | 12 => instructionPageFault
  | 13 => loadPageFault
  | 15 => storePageFault
  | _ => unknown code

/-- What a trap was taken for. -/
inductive TrapCause where
  | interrupt (code : UInt32)
  | exception (code : ExceptionCode)
deriving DecidableEq

/-- The cause that a cause register holds. -/
def TrapCause.ofWord (mcause : UInt32) : TrapCause :=
  let code := mcause &&& 0x7FFFFFFF
  if mcause &&& 0x80000000 = 0 then .exception (.ofCode code) else .interrupt code

end SandboxMonitor
