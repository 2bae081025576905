import SandboxMonitor.Machine.Basic

/-!
# Raising a trap

`TrapReport` are new values for some of the registers that describe a trap.  `Machine.amend`
writes those that are given; `Machine.raise` leaves the registers as a trap does, which also
disables interrupts and notes the mode that the trap came from.
-/

namespace SandboxMonitor

/-- New values for some of the registers that describe a trap. -/
structure TrapReport where
  mcause : Option UInt32
  mepc : Option UInt32
  mtval : Option UInt32
  mpp : Option Privilege
  mie : Option Bool
deriving DecidableEq

namespace Machine

variable {B : Type}

/-- The machine with the registers that are given. -/
def amend (report : TrapReport) (m : Machine B) : Machine B :=
  { m with
    mcause := report.mcause.getD m.mcause
    mepc := report.mepc.getD m.mepc
    mtval := report.mtval.getD m.mtval
    mpp := report.mpp.getD m.mpp
    mie := report.mie.getD m.mie }

/-- The mode that a trap came from, as far as its cause tells. -/
def callerMode (mcause : UInt32) : Privilege := if mcause = 11 then .machine else .user

/-- The machine as a trap leaves it. -/
def raise (report : TrapReport) (m : Machine B) : Machine B :=
  let amended := m.amend report
  { amended with
    mpp := report.mpp.getD (callerMode amended.mcause)
    mie := report.mie.getD false }

end Machine

end SandboxMonitor
