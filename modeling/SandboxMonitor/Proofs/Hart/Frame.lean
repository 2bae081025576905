import Mathlib.Data.List.FinRange
import SandboxMonitor.Hart.TrapVector
import SandboxMonitor.Proofs.Hart.Execution

/-!
# Frames on the trap stack

A frame has a slot for each register below the top of the trap stack.  Seen as `Registers`, a
frame in memory is one on which a store to a slot is `Registers.set`
(`Memory.HasFrame.frame_write`), so a list of stores sets registers of the frame
(`TrapVector.executes_stores`), and a list of loads writes them to the core
(`TrapVector.executes_loads`).
-/

namespace SandboxMonitor

open SandboxMonitor.Action TrapVector

/-! ### Slots -/

namespace TrapVector

/-- The address of a slot of the frame below the top of a trap stack. -/
def slotAddr (top : UInt32) (r : Reg) : UInt32 := top - frameSize + slot r

theorem toNat_slotAddr {top : UInt32} (hfits : 128 ≤ top.toNat) (r : Reg) :
  (slotAddr top r).toNat = top.toNat - 128 + 4 * r.val
  := by
  have hr := r.isLt
  have htop := top.toNat_lt
  have hframe : frameSize ≤ top := UInt32.le_iff_toNat_le.mpr hfits
  have hbase : (top - frameSize).toNat = top.toNat - 128 := UInt32.toNat_sub_of_le _ _ hframe
  have hslot : (slot r).toNat = 4 * r.val := by
    rw [slot, UInt32.toNat_ofNat', Nat.mod_eq_of_lt (by omega)]
  rw [slotAddr, UInt32.toNat_add, hbase, hslot, Nat.mod_eq_of_lt (by omega)]

theorem mem_spilled {r : Reg} :
  r ∈ spilled ↔ r ≠ .zero ∧ r ≠ .sp
  := by
  simp [spilled]

end TrapVector

/-! ### Frames in memory -/

namespace Memory

/-- Below the top of a trap stack there is memory for a frame. -/
structure HasFrame (m : Memory) (top : UInt32) : Prop where
  fits : 128 ≤ top.toNat
  holds : ∀ r, m.holds (slotAddr top r) 4 = true

/-- One segment with all bytes below the top will do. -/
theorem hasFrame_of_holds {m : Memory} {top : UInt32} (hfits : 128 ≤ top.toNat)
    (h : m.holds (top - frameSize) 128 = true) :
  m.HasFrame top
  := by
  use hfits
  intro r
  have hr := r.isLt
  have hbase : (top - frameSize).toNat = top.toNat - 128 :=
    UInt32.toNat_sub_of_le _ _ (UInt32.le_iff_toNat_le.mpr hfits)
  rw [holds, List.any_eq_true] at h ⊢
  obtain ⟨s, hs, hholds⟩ := h
  use s, hs
  rw [Segment.holds, Bool.and_eq_true, decide_eq_true_eq, decide_eq_true_eq,
    UInt32.le_iff_toNat_le] at hholds ⊢
  rw [toNat_slotAddr hfits]
  omega

/-- The words of the frame below the top of a trap stack. -/
def frame (m : Memory) (top : UInt32) : Registers :=
  ⟨Vector.ofFn fun r => (m.word? (slotAddr top r)).getD 0⟩

theorem get_frame (m : Memory) (top : UInt32) (r : Reg) :
  (m.frame top).get r = (m.word? (slotAddr top r)).getD 0
  := by
  rw [frame, Registers.get]
  apply Vector.getElem_ofFn

theorem HasFrame.word?_eq {m : Memory} {top : UInt32} (h : m.HasFrame top) (r : Reg) :
  m.word? (slotAddr top r) = some ((m.frame top).get r)
  := by
  have hsome := (m.isSome_word? (slotAddr top r)).trans (h.holds r)
  obtain ⟨w, hw⟩ := Option.isSome_iff_exists.mp hsome
  rw [get_frame, hw, Option.getD_some]

/-- The second memory has the addresses of the first one. -/
def SameMap (m m' : Memory) : Prop := ∀ addr length, m'.holds addr length = m.holds addr length

theorem HasFrame.of_sameMap {m m' : Memory} {top : UInt32} (h : m.HasFrame top)
    (hmap : m.SameMap m') :
  m'.HasFrame top
  where
  fits := h.fits
  holds r := (hmap _ _).trans (h.holds r)

/-- The second memory is the first one with some words in the frame. -/
structure Reframed (m : Memory) (top : UInt32) (words : Registers) (m' : Memory) : Prop where
  frame : m'.frame top = words
  map : m.SameMap m'
  /-- No byte outside the frame has changed. -/
  outside : ∀ (addr : UInt32) (length i : Nat),
    addr.toNat + i < top.toNat - 128 ∨ top.toNat ≤ addr.toNat + i →
      (m'.read? addr length).map (fun bytes => bytes[i]?)
        = (m.read? addr length).map fun bytes => bytes[i]?

theorem Reframed.refl (m : Memory) (top : UInt32) :
  m.Reframed top (m.frame top) m
  := ⟨rfl, fun _ _ => rfl, fun _ _ _ _ => rfl⟩

theorem Reframed.trans {m m' m'' : Memory} {top : UInt32} {words words' : Registers}
    (h : m.Reframed top words m') (h' : m'.Reframed top words' m'') :
  m.Reframed top words' m''
  where
  frame := h'.frame
  map addr length := (h'.map addr length).trans (h.map addr length)
  outside addr length i hi := (h'.outside addr length i hi).trans (h.outside addr length i hi)

/-- On frames, a store to a slot replaces one word. -/
theorem HasFrame.frame_write {m : Memory} {top : UInt32} (h : m.HasFrame top) (r : Reg)
    (w : UInt32) :
  (m.write (slotAddr top r) (wordOctets w)).frame top = (m.frame top).set r w
  := by
  ext s
  rw [get_frame]
  by_cases heq : r = s
  · subst heq
    rw [word?_write_self (h.holds r), Registers.get_set_self, Option.getD_some]
  · rw [word?_write_of_apart, Registers.get_set_of_ne _ _ heq, get_frame]
    rw [toNat_slotAddr h.fits, toNat_slotAddr h.fits]
    have hne : r.val ≠ s.val := fun hval => heq (Fin.ext hval)
    omega

theorem HasFrame.reframed_write {m : Memory} {top : UInt32} (h : m.HasFrame top) (r : Reg)
    (w : UInt32) :
  m.Reframed top ((m.frame top).set r w) (m.write (slotAddr top r) (wordOctets w))
  where
  frame := h.frame_write r w
  map addr length := m.holds_write (slotAddr top r) addr (wordOctets w) length
  outside addr length i hi := by
    apply getElem?_read?_write
    have hr := r.isLt
    have hlength : (wordOctets w).length = 4 := rfl
    rw [toNat_slotAddr h.fits, hlength]
    have hfits := h.fits
    omega

end Memory

/-! ### Lists of stores and loads -/

/-- The registers with the words that a function has for some of them. -/
def Registers.setAll (rs : Registers) (f : Reg → UInt32) (regs : List Reg) : Registers :=
  regs.foldl (fun rs r => rs.set r (f r)) rs

theorem Registers.setAll_cons (rs : Registers) (f : Reg → UInt32) (r : Reg) (rest : List Reg) :
  rs.setAll f (r :: rest) = (rs.set r (f r)).setAll f rest
  := rfl

theorem Registers.get_setAll (rs : Registers) (f : Reg → UInt32) (regs : List Reg) (s : Reg) :
  (rs.setAll f regs).get s = if s ∈ regs then f s else rs.get s
  := by
  induction regs generalizing rs with
  | nil => rfl
  | cons r rest ih =>
    rw [setAll_cons, ih]
    by_cases heq : r = s
    · subst heq
      simp
    · simp [Registers.get_set_of_ne _ _ heq, Ne.symm heq]

/-- The registers as instructions read them: the first one is zero. -/
def Core.visible (c : Core) : Registers := c.registers.set .zero 0

theorem Core.get_visible (c : Core) (r : Reg) :
  c.visible.get r = c.read r
  := by
  rw [visible, read]
  split
  · rename_i hzero
    rw [hzero, Registers.get_set_self]
  · rename_i hpositive
    apply Registers.get_set_of_ne _ _ (Ne.symm hpositive)

/-- The core after the words that a function has for some registers have been written. -/
def Core.writeAll (c : Core) (f : Reg → UInt32) (regs : List Reg) : Core :=
  regs.foldl (fun c r => c.write r (f r)) c

theorem Core.writeAll_cons (c : Core) (f : Reg → UInt32) (r : Reg) (rest : List Reg) :
  c.writeAll f (r :: rest) = (c.write r (f r)).writeAll f rest
  := rfl

theorem Core.read_writeAll (c : Core) (f : Reg → UInt32) (regs : List Reg) {s : Reg}
    (hs : s ≠ .zero) :
  (c.writeAll f regs).read s = if s ∈ regs then f s else c.read s
  := by
  induction regs generalizing c with
  | nil => rfl
  | cons r rest ih =>
    rw [writeAll_cons, ih]
    by_cases heq : s = r
    · subst heq
      simp [hs]
    · simp [Core.read_write_of_ne c heq, heq]

theorem Core.mscratch_writeAll (c : Core) (f : Reg → UInt32) (regs : List Reg) :
  (c.writeAll f regs).mscratch = c.mscratch
  := by
  induction regs generalizing c with
  | nil => rfl
  | cons r rest ih =>
    rw [writeAll_cons, ih, Core.mscratch_write]

namespace TrapVector

variable {filter : LogFilter} {top : UInt32} {h : Hart}

/-- The event of a store to a slot. -/
def storeEvent (top : UInt32) (r : Reg) : Event := .store (slotAddr top r) 4

theorem run_storeSlot (filter : LogFilter) (src r : Reg) (hsp : h.core.read .sp = top - frameSize)
    (hframe : h.machine.memory.HasFrame top) :
  (Instruction.storeWord src .sp (slot r)).exec.run filter h
    = ⟨.ok (), h.withMemory
        (h.machine.memory.write (slotAddr top r) (wordOctets (h.core.read src))),
        [storeEvent top r]⟩
  := by
  have haddr : h.core.read .sp + slot r = slotAddr top r := by rw [hsp, slotAddr]
  rw [Hart.run_storeWord, haddr, storeEvent]
  rw [haddr]
  apply hframe.holds r

theorem run_loadSlot (filter : LogFilter) (r : Reg) (hsp : h.core.read .sp = top - frameSize)
    (hframe : h.machine.memory.HasFrame top) :
  (Instruction.loadWord r .sp (slot r)).exec.run filter h
    = ⟨.ok (), { h with core := h.core.write r ((h.machine.memory.frame top).get r) }, []⟩
  := by
  apply Hart.run_loadWord
  rw [hsp]
  apply hframe.word?_eq r

/-- A list of stores puts registers into the frame. -/
theorem executes_stores (filter : LogFilter) (regs : List Reg)
    (hsp : h.core.read .sp = top - frameSize) (hframe : h.machine.memory.HasFrame top) :
  ∃ m', h.machine.memory.Reframed top ((h.machine.memory.frame top).setAll h.core.read regs) m'
    ∧ Hart.Executes filter (regs.map fun r => .storeWord r .sp (slot r)) h (h.withMemory m')
      (regs.map (storeEvent top))
  := by
  -- A store leaves the core as it was, so the later stores still take the first registers.
  induction regs generalizing h with
  | nil => exact ⟨_, .refl _ top, Hart.executes_nil filter h⟩
  | cons r rest ih =>
    have hfirst := hframe.reframed_write r (h.core.read r)
    obtain ⟨m', hrest, hexecutes⟩ := ih (h := h.withMemory
      (h.machine.memory.write (slotAddr top r) (wordOctets (h.core.read r)))) hsp
      (hframe.of_sameMap hfirst.map)
    simp only [Hart.core_withMemory, Hart.memory_withMemory, Hart.withMemory_withMemory,
      hfirst.frame] at hrest hexecutes
    use m'
    rw [Registers.setAll_cons]
    use hfirst.trans hrest
    apply Hart.Executes.cons (run_storeSlot filter r r hsp hframe) hexecutes

/-- A list of loads takes registers from the frame, as long as the stack pointer is not one
of them. -/
theorem executes_loads (filter : LogFilter) {regs : List Reg} (hregs : Reg.sp ∉ regs)
    (hsp : h.core.read .sp = top - frameSize) (hframe : h.machine.memory.HasFrame top) :
  Hart.Executes filter (regs.map fun r => .loadWord r .sp (slot r)) h
    { h with core := h.core.writeAll (h.machine.memory.frame top).get regs } []
  := by
  -- The stack pointer is kept by each load, and so is the address of the next slot.
  induction regs generalizing h with
  | nil => apply Hart.executes_nil
  | cons r rest ih =>
    rw [List.mem_cons, not_or] at hregs
    have hkept := (h.core.read_write_of_ne hregs.1 ((h.machine.memory.frame top).get r)).trans hsp
    rw [Core.writeAll_cons]
    apply Hart.Executes.cons (run_loadSlot filter r hsp hframe)
    apply ih (h := { h with core := h.core.write r ((h.machine.memory.frame top).get r) })
      hregs.2 hkept hframe

end TrapVector

end SandboxMonitor
