import SandboxMonitor.Hart.Instruction

/-!
# The trap vector

While the sandbox runs, the scratch register holds the top of the trap stack.  The code that
traps go to swaps it with the sandbox's stack pointer, spills the registers into a frame of
32 words below it, and passes the address of the frame to the handler.  When the handler
comes back, the code puts the trap stack back into the scratch register, restores the
registers from the frame and returns to the sandbox.
-/

namespace SandboxMonitor

namespace TrapVector

/-- The number of bytes of a frame. -/
def frameSize : UInt32 := 128

/-- The place of a register in a frame. -/
def slot (r : Reg) : UInt32 := .ofNat (4 * r.val)

/-- The registers that are spilled from where they are: all but the one that is always zero
and the stack pointer, which is in the scratch register by then. -/
def spilled : List Reg := (List.finRange 32).filter fun r => r ≠ .zero && r ≠ .sp

/-- The instructions before the handler. -/
def spill : List Instruction :=
  [.swapScratch .sp .sp, .addi .sp .sp (-frameSize)]
    ++ spilled.map (fun r => .storeWord r .sp (slot r))
    ++ [.readScratch .t0, .storeWord .t0 .sp (slot .sp), .storeWord .zero .sp (slot .zero),
      .mv .a0 .sp]

/-- The instructions after the handler. -/
def restore : List Instruction :=
  [.addi .t0 .sp frameSize, .writeScratch .t0]
    ++ spilled.map (fun r => .loadWord r .sp (slot r))
    ++ [.loadWord .sp .sp (slot .sp)]

/-- Enters the handler. -/
def enter : Action Hart Unit := execAll spill

/-- Leaves the handler and returns to the sandbox. -/
def leave : Action Hart Unit := do
  execAll restore
  .modify Hart.returnFromTrap

end TrapVector

namespace Hart

/-- The frame at an address. -/
def loadFrame (addr : UInt32) : Action Hart Registers := do
  let words ← (List.finRange 32).mapM fun r => load (addr + TrapVector.slot r)
  return .ofList words

/-- Stores words one after another. -/
def storeWords (addr : UInt32) (ws : List UInt32) : Action Hart Unit :=
  onMachine (Machine.poke addr (ws.flatMap wordOctets))

/-- Writes a frame at an address. -/
def storeFrame (addr : UInt32) (frame : Registers) : Action Hart Unit :=
  storeWords addr frame.toList

end Hart

end SandboxMonitor
