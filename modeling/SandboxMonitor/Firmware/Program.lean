import SandboxMonitor.Firmware.MemoryMap
import SandboxMonitor.Hart.Access

/-!
# The sandbox program

The program reads a line from the console byte by byte and echoes it, drops what does not
fit its buffer, hands the line to inference, asks for the counters, and starts over.
`advance` runs it up to what interrupts it: its next call, or an access that the hart refuses.
-/

namespace SandboxMonitor.Firmware

/-- A step of the program: an instruction, a jump to another step, or a call. -/
inductive Step where
  | plain (i : Instruction)
  /-- Goes to another step if two registers are equal. -/
  | branchEqual (r₁ r₂ : Reg) (target : Nat)
  | jump (target : Nat)
  | call
deriving DecidableEq

/-- The access that a step makes apart from its fetch. -/
def Step.access? (c : Core) : Step → Option Access
  | plain i => i.access? c
  | _ => none

/-- What a program is interrupted by. -/
inductive Interruption where
  /-- It calls. -/
  | call
  /-- It may not make an access. -/
  | refusal (access : Access)
deriving DecidableEq

namespace Interruption

/-- The cause of the trap that is taken.  A call has one for the mode that it is made in. -/
def cause (mode : Privilege) : Interruption → UInt32
  | call => 8 + .ofNat mode.code
  | refusal access => access.kind.faultCause

/-- What the trap has to say beyond its cause. -/
def value : Interruption → UInt32
  | call => 0
  | refusal access => access.addr

end Interruption

namespace Program

/-- The step at which `startLine` begins. -/
def newLine : Nat := 2

/-- The step at which `askByte` begins. -/
def readByte : Nat := 3

/-- The step at which `echoEnd` begins. -/
def endOfLine : Nat := 16

/-! ### The blocks of the program, in order -/

/-- Keeps the buffer and its length. -/
def keepBuffer : List Step := [.plain (.mv .s0 .a0), .plain (.mv .s1 .a1)]

/-- Starts a line of length 0. -/
def startLine : List Step := [.plain (.li .s2 0)]

/-- Asks for a byte. -/
def askByte : List Step := [.plain (.li .a7 2), .call]

/-- Leaves at a carriage return or a line feed. -/
def testEnd : List Step := [
  .plain (.li .t0 13), .branchEqual .a0 .t0 endOfLine,
  .plain (.li .t0 10), .branchEqual .a0 .t0 endOfLine]

/-- Drops a byte that does not fit the buffer. -/
def testFull : List Step := [.branchEqual .s2 .s1 readByte]

/-- Stores the byte behind the others. -/
def storeByte : List Step := [
  .plain (.add .t1 .s0 .s2), .plain (.storeByte .a0 .t1 0), .plain (.addi .s2 .s2 1)]

/-- Echoes the byte and goes on to the next one. -/
def echoByte : List Step := [.plain (.li .a7 1), .call, .jump readByte]

/-- Echoes the end of the line. -/
def echoEnd : List Step := [
  .plain (.li .a0 13), .plain (.li .a7 1), .call,
  .plain (.li .a0 10), .plain (.li .a7 1), .call]

/-- Starts over after an empty line. -/
def testEmpty : List Step := [.branchEqual .s2 .zero newLine]

/-- Hands the line to inference. -/
def inferLine : List Step := [
  .plain (.mv .a0 .s0), .plain (.mv .a1 .s2), .plain (.li .a7 0), .call]

/-- Asks for the counters, without a buffer for them, and starts over. -/
def askCounters : List Step := [
  .plain (.li .a0 0), .plain (.li .a1 0), .plain (.li .a7 99), .call, .jump newLine]

/-- The steps of the program. -/
def steps : List Step :=
  keepBuffer ++ startLine ++ askByte ++ testEnd ++ testFull ++ storeByte ++ echoByte
    ++ echoEnd ++ testEmpty ++ inferLine ++ askCounters

/-! ### The program in memory -/

/-- The word that stands for a step in memory; only calls are told apart. -/
def wordOf : Step → UInt32
  | .call => 0x00000073
  | _ => 0x00000013

/-- The octets of the program in memory. -/
def code : List UInt8 := steps.flatMap fun s => wordOctets (wordOf s)

/-- The address of a step. -/
def address (index : Nat) : UInt32 := sandboxBase + .ofNat (4 * index)

/-- The step at an address. -/
def indexOf? (addr : UInt32) : Option Nat :=
  let index := (addr.toNat - sandboxBase.toNat) / 4
  if index < steps.length ∧ address index = addr then some index else none

/-! ### Running -/

/-- The accesses of a step, the fetch first. -/
def accesses (c : Core) (index : Nat) : List Access :=
  .fetch (address index) :: (steps[index]?.bind (Step.access? c)).toList

/-- What keeps the hart from doing a step and going on with another one. -/
def interruption? (index : Nat) (h : Hart) : Option Interruption :=
  match (accesses h.core index).find? fun access => !h.permits access with
  | some access => some (.refusal access)
  | none => if steps[index]? = some .call then some .call else none

/-- Runs the program from a step until it is interrupted, and answers at which step and by
what.  No step comes up twice without a call in between, so as many steps as the program has
are enough. -/
def advance : Nat → Nat → Action Hart (Option (Nat × Interruption))
  | 0, _ => return none
  | fuel + 1, index => do
    match ← .gets (interruption? index) with
    | some why => return some (index, why)
    | none =>
      match steps[index]? with
      | some (.plain i) =>
        i.exec
        advance fuel (index + 1)
      | some (.branchEqual r₁ r₂ target) =>
        let equal := (← Hart.readReg r₁) = (← Hart.readReg r₂)
        advance fuel (if equal then target else index + 1)
      | some (.jump target) => advance fuel target
      | some .call | none => return none

end Program

end SandboxMonitor.Firmware
