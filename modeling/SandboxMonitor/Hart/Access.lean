import SandboxMonitor.Hart.Instruction
import SandboxMonitor.Protection.Access

/-!
# Accesses to memory

A hart checks the fetch of an instruction, and the load or the store that the instruction
makes, against its protection registers.  `Hart.permits` is this check: outside machine mode
an entry has to allow the access, and machine mode is bound by locked entries only.  An
access that is not permitted is not made; the hart takes a trap instead, with the cause
`AccessKind.faultCause`.
-/

namespace SandboxMonitor

/-- An access to bytes of memory. -/
structure Access where
  kind : AccessKind
  addr : UInt32
  /-- The number of bytes. -/
  length : Nat
deriving DecidableEq

/-- The fetch of an instruction of four bytes. -/
def Access.fetch (addr : UInt32) : Access := ⟨.execute, addr, 4⟩

/-- The cause of the trap that an access of some kind ends in when it is refused. -/
def AccessKind.faultCause : AccessKind → UInt32
  | execute => 1
  | read => 5
  | write => 7

/-- The access that an instruction makes apart from its fetch. -/
def Instruction.access? (c : Core) : Instruction → Option Access
  | loadWord _ base offset => some ⟨.read, c.read base + offset, 4⟩
  | storeWord _ base offset => some ⟨.write, c.read base + offset, 4⟩
  | storeByte _ base offset => some ⟨.write, c.read base + offset, 1⟩
  | _ => none

namespace Hart

/-- Whether the hart may make an access of some kind to a byte address in the mode it is in. -/
def may (h : Hart) (kind : AccessKind) (a : Nat) : Bool :=
  match h.core.mode with
  | .machine => (ProtectionBank.decider? h.machine.bank a).all fun index =>
      let e := ProtectionBank.entry h.machine.bank index
      !e.isLocked || e.permissions.allows kind
  | _ => ProtectionBank.userMay h.machine.bank kind a

/-- Whether the hart may make an access in the mode it is in.  It is refused when one entry decides
about some of its bytes and another one, or none, about the others. -/
def permits (h : Hart) (access : Access) : Bool :=
  let first := access.addr.toNat
  let decider := ProtectionBank.decider? h.machine.bank first
  (List.range access.length).all fun i =>
    ProtectionBank.decider? h.machine.bank (first + i) = decider && h.may access.kind (first + i)

end Hart

end SandboxMonitor
