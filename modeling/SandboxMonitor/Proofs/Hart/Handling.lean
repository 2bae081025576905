import SandboxMonitor.Proofs.Hart.TrapVector
import SandboxMonitor.Proofs.Machine.Separation
import SandboxMonitor.Proofs.Service.Footprint

/-!
# The frame in the hands of the handler

The handler loads the frame that the trap vector has spilled, and writes another one in its
place (`Hart.run_loadFrame`, `Hart.run_storeFrame`).  Nothing outside the frame is changed, and
nothing of the hart but its memory, its registers and the scratch register: this holds of every
list of instructions (`Hart.confined_execAll`).
-/

namespace SandboxMonitor

open SandboxMonitor.Action TrapVector

/-! ### Beside the frame -/

namespace Memory.Reframed

variable {m m' : Memory} {top : UInt32} {words : Registers}

/-- Bytes outside the frame are read as before. -/
theorem read?_eq (h : m.Reframed top words m') {addr : UInt32} {length : Nat}
    (houtside : addr.toNat + length ≤ top.toNat - 128 ∨ top.toNat ≤ addr.toNat) :
  m'.read? addr length = m.read? addr length
  := by
  apply read?_congr (h.map addr length)
  intro i hi
  apply h.outside
  omega

end Memory.Reframed

/-! ### Loading a frame -/

theorem Registers.ofList_get (rs : Registers) :
  ofList ((List.finRange 32).map rs.get) = rs
  := by
  ext r
  have hr := r.isLt
  rw [ofList, Registers.get, Vector.getElem_ofFn]
  simp [hr]

namespace Hart

variable {filter : LogFilter} {top : UInt32} {h : Hart}

theorem run_loadWords (filter : LogFilter) (hframe : h.machine.memory.HasFrame top)
    (regs : List Reg) (loaded : List UInt32) :
  (List.mapM.loop (fun r => load (top - frameSize + slot r)) regs loaded).run filter h
    = ⟨.ok (loaded.reverse ++ regs.map (h.machine.memory.frame top).get), h, []⟩
  := by
  induction regs generalizing loaded with
  | nil => rw [List.mapM.loop, run_pure, List.map_nil, List.append_nil]
  | cons r rest ih =>
    have hload : (load (top - frameSize + slot r)).run filter h
        = ⟨.ok ((h.machine.memory.frame top).get r), h, []⟩ :=
      run_load filter (hframe.word?_eq r)
    rw [List.mapM.loop, run_bind, hload]
    dsimp only
    rw [ih, List.reverse_cons, List.append_assoc, List.singleton_append, List.map_cons]
    rfl

/-- The handler loads the frame that memory has below the top of the trap stack. -/
theorem run_loadFrame (filter : LogFilter) (hframe : h.machine.memory.HasFrame top) :
  (loadFrame (top - frameSize)).run filter h
    = ⟨.ok (h.machine.memory.frame top), h, []⟩
  := by
  rw [loadFrame, run_bind, List.mapM, run_loadWords filter hframe]
  dsimp only
  rw [List.reverse_nil, List.nil_append, Registers.ofList_get]
  rfl

end Hart

/-! ### Writing a frame -/

/-- The octets of one of the words of a list. -/
theorem take_drop_flatMap_wordOctets (ws : List UInt32) {i : Nat} (h : i < ws.length) :
  ((ws.flatMap wordOctets).drop (4 * i)).take 4 = wordOctets ws[i]
  := by
  induction ws generalizing i with
  | nil => cases h
  | cons w rest ih =>
    have hlength : (wordOctets w).length = 4 := rfl
    rw [List.flatMap_cons]
    cases i with
    | zero => rw [Nat.mul_zero, List.drop_zero, List.take_left' hlength, List.getElem_cons_zero]
    | succ i =>
      have hdrop : 4 * (i + 1) = (wordOctets w).length + 4 * i := by
        rw [hlength]
        omega
      rw [hdrop, List.drop_append, List.getElem_cons_succ]
      simp only [Nat.add_sub_cancel_left, List.drop_eq_nil_of_le (Nat.le_add_right _ _),
        List.nil_append]
      apply ih (Nat.lt_of_succ_lt_succ h)

theorem length_flatMap_wordOctets (ws : List UInt32) :
  (ws.flatMap wordOctets).length = 4 * ws.length
  := by
  induction ws with
  | nil => rfl
  | cons w rest ih =>
    rw [List.flatMap_cons, List.length_append, ih, List.length_cons]
    change 4 + 4 * rest.length = _
    omega

namespace Memory

variable {m : Memory} {top : UInt32}

/-- The octets of a frame. -/
def frameOctets (frame : Registers) : List UInt8 := frame.toList.flatMap wordOctets

theorem length_frameOctets (frame : Registers) :
  (frameOctets frame).length = 128
  := by
  rw [frameOctets, length_flatMap_wordOctets, Registers.toList, Vector.length_toList]

/-- Writing all the words of a frame in one piece puts each of them into its slot. -/
theorem reframed_write_frame (hapart : m.Apart) (hfits : 128 ≤ top.toNat)
    (hholds : m.holds (top - frameSize) 128 = true) (frame : Registers) :
  m.Reframed top frame (m.write (top - frameSize) (frameOctets frame))
  := by
  have hbase : (top - frameSize).toNat = top.toNat - 128 :=
    UInt32.toNat_sub_of_le _ _ (UInt32.le_iff_toNat_le.mpr hfits)
  have htop := top.toNat_lt
  have hlength := length_frameOctets frame
  have hread : (m.write (top - frameSize) (frameOctets frame)).read? (top - frameSize)
      (frameOctets frame).length = some (frameOctets frame) := by
    apply read?_write_self
    rw [hlength]
    apply hholds
  have hapart' := hapart.congr (m.extents_write (top - frameSize) (frameOctets frame))
  constructor
  · ext r
    have hr := r.isLt
    have hword := hapart'.read?_slice (n := 4 * r.val) (k := 4) hread (by omega) (by omega)
    have hslice : ((frameOctets frame).drop (4 * r.val)).take 4 = wordOctets (frame.get r) := by
      rw [frameOctets, take_drop_flatMap_wordOctets _ (by
        rw [Registers.toList, Vector.length_toList]
        apply r.isLt)]
      rfl
    rw [hslice] at hword
    rw [get_frame, word?, slotAddr, slot, hword, Option.map_some, littleEndian_wordOctets,
      UInt32.ofNat_toNat, Option.getD_some]
  · intro addr length
    apply m.holds_write
  · intro addr length i hi
    apply m.getElem?_read?_write
    rw [hbase, hlength]
    omega

end Memory

namespace Hart

variable {filter : LogFilter} {top : UInt32} {h : Hart}

theorem run_storeFrame (filter : LogFilter)
    (hholds : h.machine.memory.holds (top - frameSize) 128 = true) (frame : Registers) :
  (storeFrame (top - frameSize) frame).run filter h
    = ⟨.ok (), h.withMemory
        (h.machine.memory.write (top - frameSize) (Memory.frameOctets frame)), []⟩
  := by
  have hoctets : h.machine.memory.holds (top - frameSize) (Memory.frameOctets frame).length
      = true := by
    rw [Memory.length_frameOctets]
    apply hholds
  rw [storeFrame, storeWords, ← Memory.frameOctets, run_onMachine, Machine.run_poke filter hoctets]
  rfl

end Hart

/-! ### What instructions keep -/

/-- The machine is another one but for its memory, which has the same addresses. -/
structure Machine.SameButMemory {B : Type} (m m' : Machine B) : Prop where
  machine : m' = { m with memory := m'.memory }
  extents : m'.memory.extents = m.memory.extents

theorem Machine.SameButMemory.refl {B : Type} (m : Machine B) :
  m.SameButMemory m
  := ⟨rfl, rfl⟩

/-- The core is another one but for its registers and the scratch register. -/
def Core.SameControl (c c' : Core) : Prop :=
  c' = { c with registers := c'.registers, mscratch := c'.mscratch }

theorem Core.SameControl.write {c c' : Core} (h : c.SameControl c') (r : Reg) (w : UInt32) :
  c.SameControl (c'.write r w)
  := by
  rw [SameControl] at h ⊢
  rw [Core.write]
  split
  · apply h
  · rw [h]

/-- The hart is another one but for what instructions may change. -/
structure Hart.SameControl (h h' : Hart) : Prop where
  core : h.core.SameControl h'.core
  machine : h.machine.SameButMemory h'.machine

theorem Hart.SameControl.refl (h : Hart) :
  h.SameControl h
  := ⟨rfl, .refl h.machine⟩

section SameControl

variable {α : Type} {E : Event → Prop} {h : Hart}

theorem Hart.confined_onCore {a : Action Core α} (ha : a.Confined h.core.SameControl E) :
  (onCore a).Confined h.SameControl E
  := by
  apply ha.on
  · intro _ hsame
    apply hsame.core
  · intro _ _ hsame hcore
    exact ⟨hcore, hsame.machine⟩

theorem Hart.confined_onMachine {a : Action (Machine PackedBank) α}
    (ha : a.Confined h.machine.SameButMemory E) :
  (onMachine a).Confined h.SameControl E
  := by
  apply ha.on
  · intro _ hsame
    apply hsame.machine
  · intro _ _ hsame hmachine
    exact ⟨hsame.core, hmachine⟩

theorem Hart.confined_writeReg (r : Reg) (w : UInt32) :
  (writeReg r w).Confined h.SameControl E
  := by
  apply confined_onCore
  apply confined_modify
  intro _ hsame
  apply hsame.write

theorem Hart.confined_writeScratch (w : UInt32) :
  (writeScratch w).Confined h.SameControl E
  := by
  apply confined_onCore
  apply confined_modify
  intro c hsame
  rw [Core.SameControl] at hsame ⊢
  rw [hsame]

theorem Hart.confined_load (addr : UInt32) :
  (load addr).Confined h.SameControl E
  := by
  apply Confined.bind (confined_onMachine (Machine.confined_peek addr 4))
  intro _
  apply confined_pure

theorem Machine.confined_poke_sameButMemory {m : Machine PackedBank} (addr : UInt32)
    (bytes : List UInt8) :
  (poke addr bytes : Action (Machine PackedBank) _).Confined m.SameButMemory E
  := by
  intro filter m' hsame
  rw [Action.run, poke]
  split
  · constructor
    · constructor
      · rw [hsame.machine]
      · rw [Memory.extents_write, hsame.extents]
    · apply List.forall_mem_nil
  · use hsame, List.forall_mem_nil E

theorem Hart.confined_store (addr : UInt32) (bytes : List UInt8)
    (hE : E (.store addr bytes.length)) :
  (store addr bytes).Confined h.SameControl E
  := by
  apply Confined.bind (confined_emit hE)
  intro _
  apply confined_onMachine (Machine.confined_poke_sameButMemory addr bytes)

/-- An instruction changes nothing of the hart but registers and memory. -/
theorem Instruction.confined_exec (i : Instruction) :
  i.exec.Confined h.SameControl (fun _ => True)
  := by
  cases i with
  | addi dst src constant =>
    apply Confined.bind (confined_gets _)
    intro _
    apply Hart.confined_writeReg
  | add dst src₁ src₂ =>
    apply Confined.bind (confined_gets _)
    intro _
    apply Confined.bind (confined_gets _)
    intro _
    apply Hart.confined_writeReg
  | loadWord dst base offset =>
    apply Confined.bind (confined_gets _)
    intro _
    apply Confined.bind (Hart.confined_load _)
    intro _
    apply Hart.confined_writeReg
  | storeWord src base offset =>
    apply Confined.bind (confined_gets _)
    intro _
    apply Confined.bind (confined_gets _)
    intro _
    apply Hart.confined_store
    trivial
  | storeByte src base offset =>
    apply Confined.bind (confined_gets _)
    intro _
    apply Confined.bind (confined_gets _)
    intro _
    apply Hart.confined_store
    trivial
  | swapScratch dst src =>
    apply Confined.bind (confined_gets _)
    intro _
    apply Confined.bind (confined_gets _)
    intro _
    apply Confined.bind (Hart.confined_writeScratch _)
    intro _
    apply Hart.confined_writeReg
  | readScratch dst =>
    apply Confined.bind (confined_gets _)
    intro _
    apply Hart.confined_writeReg
  | writeScratch src =>
    apply Confined.bind (confined_gets _)
    intro _
    apply Hart.confined_writeScratch

/-- A list of instructions changes nothing of the hart but registers and memory. -/
theorem Hart.confined_execAll (is : List Instruction) :
  (execAll is).Confined h.SameControl (fun _ => True)
  := by
  induction is with
  | nil => apply confined_pure
  | cons i rest ih =>
    apply Confined.bind i.confined_exec
    intro _
    apply ih

end SameControl

end SandboxMonitor
