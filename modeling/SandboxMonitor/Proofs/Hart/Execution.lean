import SandboxMonitor.Proofs.Machine.Words

/-!
# Executing instructions

`Hart.Executes` says that a list of instructions runs to its end, where it leaves the hart and
which events it records.  An instruction between registers always runs to its end; a load or
a store of a word does when memory holds the word.
-/

namespace SandboxMonitor

open SandboxMonitor.Action

namespace Core

@[simp]
theorem read_zero (c : Core) :
  c.read .zero = 0
  := rfl

@[simp]
theorem read_write_self (c : Core) {r : Reg} (h : r ≠ .zero) (w : UInt32) :
  (c.write r w).read r = w
  := by
  rw [write, if_neg h, read, if_neg h]
  apply Registers.get_set_self

theorem read_write_of_ne (c : Core) {r s : Reg} (h : s ≠ r) (w : UInt32) :
  (c.write r w).read s = c.read s
  := by
  rw [write]
  split
  · rfl
  · rw [read, read]
    split
    · rfl
    · apply Registers.get_set_of_ne _ _ h.symm

@[simp]
theorem mscratch_write (c : Core) (r : Reg) (w : UInt32) :
  (c.write r w).mscratch = c.mscratch
  := by
  rw [write]
  split <;> rfl

@[simp]
theorem mtvec_write (c : Core) (r : Reg) (w : UInt32) :
  (c.write r w).mtvec = c.mtvec
  := by
  rw [write]
  split <;> rfl

@[simp]
theorem mode_write (c : Core) (r : Reg) (w : UInt32) :
  (c.write r w).mode = c.mode
  := by
  rw [write]
  split <;> rfl

end Core

namespace Hart

/-- The hart with another memory. -/
def withMemory (h : Hart) (memory : Memory) : Hart :=
  { h with machine := { h.machine with memory } }

@[simp]
theorem core_withMemory (h : Hart) (memory : Memory) :
  (h.withMemory memory).core = h.core
  := rfl

@[simp]
theorem memory_withMemory (h : Hart) (memory : Memory) :
  (h.withMemory memory).machine.memory = memory
  := rfl

@[simp]
theorem withMemory_withMemory (h : Hart) (memory memory' : Memory) :
  (h.withMemory memory).withMemory memory' = h.withMemory memory'
  := rfl

/-- Instructions run to their end. -/
def Executes (filter : LogFilter) (is : List Instruction) (h h' : Hart) (events : List Event) :
    Prop :=
  (execAll is).run filter h = ⟨.ok (), h', events⟩

variable {filter : LogFilter} {is js : List Instruction} {h h' h'' : Hart}
  {events later : List Event}

theorem executes_nil (filter : LogFilter) (h : Hart) :
  Executes filter [] h h []
  := rfl

theorem Executes.append (hi : Executes filter is h h' events)
    (hj : Executes filter js h' h'' later) :
  Executes filter (is ++ js) h h'' (events ++ later)
  := by
  rw [Executes, execAll_append, run_bind, hi]
  dsimp only
  rw [hj]

theorem Executes.cons {i : Instruction} (hi : i.exec.run filter h = ⟨.ok (), h', events⟩)
    (hj : Executes filter js h' h'' later) :
  Executes filter (i :: js) h h'' (events ++ later)
  := by
  rw [Executes, execAll, run_bind, hi]
  dsimp only
  rw [hj]

/-! ### Instructions between registers -/

theorem run_addi (filter : LogFilter) (h : Hart) (dst src : Reg) (constant : UInt32) :
  (Instruction.addi dst src constant).exec.run filter h
    = ⟨.ok (), { h with core := h.core.write dst (h.core.read src + constant) }, []⟩
  := rfl

theorem run_add (filter : LogFilter) (c : Core) (m : Machine PackedBank) (dst src₁ src₂ : Reg) :
  (Instruction.add dst src₁ src₂).exec.run filter ⟨c, m⟩
    = ⟨.ok (), ⟨c.write dst (c.read src₁ + c.read src₂), m⟩, []⟩
  := rfl

theorem run_li (filter : LogFilter) (c : Core) (m : Machine PackedBank) (dst : Reg) (w : UInt32) :
  (Instruction.li dst w).exec.run filter ⟨c, m⟩ = ⟨.ok (), ⟨c.write dst w, m⟩, []⟩
  := by
  rw [Instruction.li, run_addi, Core.read_zero, UInt32.zero_add]

theorem run_mv (filter : LogFilter) (c : Core) (m : Machine PackedBank) (dst src : Reg) :
  (Instruction.mv dst src).exec.run filter ⟨c, m⟩
    = ⟨.ok (), ⟨c.write dst (c.read src), m⟩, []⟩
  := by
  rw [Instruction.mv, run_addi, UInt32.add_zero]

theorem run_swapScratch (filter : LogFilter) (h : Hart) (dst src : Reg) :
  (Instruction.swapScratch dst src).exec.run filter h
    = ⟨.ok (), { h with
        core := { h.core with mscratch := h.core.read src }.write dst h.core.mscratch }, []⟩
  := rfl

theorem run_readScratch (filter : LogFilter) (h : Hart) (dst : Reg) :
  (Instruction.readScratch dst).exec.run filter h
    = ⟨.ok (), { h with core := h.core.write dst h.core.mscratch }, []⟩
  := rfl

theorem run_writeScratch (filter : LogFilter) (h : Hart) (src : Reg) :
  (Instruction.writeScratch src).exec.run filter h
    = ⟨.ok (), { h with core := { h.core with mscratch := h.core.read src } }, []⟩
  := rfl

/-! ### Loads and stores -/

theorem run_onMachine {α : Type} (a : Action (Machine PackedBank) α) (filter : LogFilter)
    (h : Hart) :
  (onMachine a).run filter h
    = ⟨(a.run filter h.machine).result, ⟨h.core, (a.run filter h.machine).state⟩,
        (a.run filter h.machine).events⟩
  := rfl

theorem run_load (filter : LogFilter) {h : Hart} {addr w : UInt32}
    (hword : h.machine.memory.word? addr = some w) :
  (load addr).run filter h = ⟨.ok w, h, []⟩
  := by
  obtain ⟨bytes, hread, rfl⟩ := Option.map_eq_some_iff.mp hword
  rw [load, run_bind, run_onMachine, Machine.run_peek filter hread]
  rfl

theorem run_store (filter : LogFilter) {h : Hart} {addr : UInt32} {bytes : List UInt8}
    (hholds : h.machine.memory.holds addr bytes.length = true) :
  (store addr bytes).run filter h
    = ⟨.ok (), h.withMemory (h.machine.memory.write addr bytes), [.store addr bytes.length]⟩
  := by
  rw [store, run_bind, run_emit]
  dsimp only
  rw [run_onMachine, Machine.run_poke filter hholds]
  rfl

theorem run_storeWord (filter : LogFilter) {h : Hart} {src base : Reg} {offset : UInt32}
    (hholds : h.machine.memory.holds (h.core.read base + offset) 4 = true) :
  (Instruction.storeWord src base offset).exec.run filter h
    = ⟨.ok (), h.withMemory
        (h.machine.memory.write (h.core.read base + offset) (wordOctets (h.core.read src))),
        [.store (h.core.read base + offset) 4]⟩
  := run_store filter hholds

theorem run_loadWord (filter : LogFilter) {h : Hart} {dst base : Reg} {offset w : UInt32}
    (hword : h.machine.memory.word? (h.core.read base + offset) = some w) :
  (Instruction.loadWord dst base offset).exec.run filter h
    = ⟨.ok (), { h with core := h.core.write dst w }, []⟩
  := by
  have hload : (Instruction.loadWord dst base offset).exec.run filter h
      = (load (h.core.read base + offset) >>= fun w => writeReg dst w).run filter h := rfl
  rw [hload, run_bind, run_load filter hword]
  rfl

end Hart

end SandboxMonitor
