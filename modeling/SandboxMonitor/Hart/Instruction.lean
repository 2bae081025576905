import SandboxMonitor.Hart.Basic

/-!
# Instructions

`Instruction` are the straight-line instructions that the trap vector and the sandbox use,
and `Instruction.exec` is what the hart does on one of them.  `execAll` runs a list of them.
-/

namespace SandboxMonitor

/-- An instruction that is followed by the next one. -/
inductive Instruction where
  /-- The sum of a register and a constant. -/
  | addi (dst src : Reg) (constant : UInt32)
  /-- The sum of two registers. -/
  | add (dst src₁ src₂ : Reg)
  /-- Loads a word at an offset from a base. -/
  | loadWord (dst base : Reg) (offset : UInt32)
  /-- Stores a word at an offset from a base. -/
  | storeWord (src base : Reg) (offset : UInt32)
  /-- Stores the low byte of a register at an offset from a base. -/
  | storeByte (src base : Reg) (offset : UInt32)
  /-- Reads the scratch register and writes another register to it. -/
  | swapScratch (dst src : Reg)
  /-- Reads the scratch register. -/
  | readScratch (dst : Reg)
  /-- Writes the scratch register. -/
  | writeScratch (src : Reg)
deriving DecidableEq

/-- The four octets of a word, the lowest first. -/
def wordOctets (w : UInt32) : List UInt8 :=
  [w.toUInt8, (w >>> 8).toUInt8, (w >>> 16).toUInt8, (w >>> 24).toUInt8]

namespace Instruction

/-- A constant put into a register. -/
def li (dst : Reg) (constant : UInt32) : Instruction := .addi dst .zero constant

/-- A register copied to another one. -/
def mv (dst src : Reg) : Instruction := .addi dst src 0

end Instruction

namespace Hart

/-- The word of a register. -/
def readReg (r : Reg) : Action Hart UInt32 := .gets fun h => h.core.read r

/-- The scratch register. -/
def readScratch : Action Hart UInt32 := .gets fun h => h.core.mscratch

/-- Writes the scratch register. -/
def writeScratch (w : UInt32) : Action Hart Unit :=
  onCore (.modify fun c => { c with mscratch := w })

/-- Writes a register. -/
def writeReg (r : Reg) (w : UInt32) : Action Hart Unit :=
  onCore (.modify fun c => c.write r w)

/-- Loads a word. -/
def load (addr : UInt32) : Action Hart UInt32 := do
  return .ofNat (littleEndian (← onMachine (Machine.peek addr 4)))

/-- Stores bytes. -/
def store (addr : UInt32) (bytes : List UInt8) : Action Hart Unit := do
  .emit (.store addr bytes.length)
  onMachine (Machine.poke addr bytes)

end Hart

open Hart (readReg writeReg load store)

/-- What the hart does on an instruction. -/
def Instruction.exec : Instruction → Action Hart Unit
  | addi dst src constant => do writeReg dst ((← readReg src) + constant)
  | add dst src₁ src₂ => do writeReg dst ((← readReg src₁) + (← readReg src₂))
  | loadWord dst base offset => do writeReg dst (← load ((← readReg base) + offset))
  | storeWord src base offset => do store ((← readReg base) + offset) (wordOctets (← readReg src))
  | storeByte src base offset => do store ((← readReg base) + offset) [(← readReg src).toUInt8]
  | swapScratch dst src => do
    let old ← Hart.readScratch
    Hart.writeScratch (← readReg src)
    writeReg dst old
  | readScratch dst => do writeReg dst (← Hart.readScratch)
  | writeScratch src => do Hart.writeScratch (← readReg src)

/-- What the hart does on a list of instructions. -/
def execAll : List Instruction → Action Hart Unit
  | [] => pure ()
  | i :: rest => do
    i.exec
    execAll rest

theorem execAll_append (is js : List Instruction) (filter : LogFilter) (h : Hart) :
  (execAll (is ++ js)).run filter h = (execAll is >>= fun _ => execAll js).run filter h
  := by
  induction is generalizing h with
  | nil => rfl
  | cons i rest ih =>
    simp only [List.cons_append, execAll, Action.run_bind]
    match hi : i.exec.run filter h with
    | ⟨.error why, h', events⟩ => rfl
    | ⟨.ok (), h', events⟩ =>
      simp only [ih, Action.run_bind]
      match hr : (execAll rest).run filter h' with
      | ⟨.error why, h'', later⟩ => rfl
      | ⟨.ok (), h'', later⟩ => simp [List.append_assoc]

end SandboxMonitor
