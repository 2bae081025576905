import SandboxMonitor.Proofs.Hart.Frame

/-!
# Registers through a trap

The trap vector hands the handler a frame with the registers that the trap has interrupted
(`TrapVector.spilled_enter`), and resumes with the registers that the handler has left in the
frame (`TrapVector.restored_leave`).  Each trap leaves the trap stack where it found it, so
the same holds for any number of traps, one after another (`TrapVector.faithful_rounds`).
-/

namespace SandboxMonitor

open SandboxMonitor.Action TrapVector

namespace TrapVector

variable {filter : LogFilter} {top : UInt32} {h : Hart}

/-! ### Entering the handler -/

/-- The stack pointer changes places with the trap stack, which then has room for a frame. -/
theorem exists_executes_swap (filter : LogFilter) (hscratch : h.core.mscratch = top) :
  ∃ c, Hart.Executes filter [.swapScratch .sp .sp, .addi .sp .sp (-frameSize)] h
      { h with core := c } []
    ∧ c.read .sp = top - frameSize ∧ c.mscratch = h.core.read .sp
    ∧ ∀ r ≠ .sp, c.read r = h.core.read r
  := by
  have hsp : Reg.sp ≠ .zero := by decide
  refine ⟨_, .cons (Hart.run_swapScratch filter h .sp .sp)
    (.cons (Hart.run_addi filter _ .sp .sp (-frameSize)) (Hart.executes_nil filter _)), ?_, ?_, ?_⟩
  · rw [Core.read_write_self _ hsp, Core.read_write_self _ hsp, hscratch, UInt32.sub_eq_add_neg]
  · rw [Core.mscratch_write, Core.mscratch_write]
  · intro r hr
    rw [Core.read_write_of_ne _ hr, Core.read_write_of_ne _ hr]
    rfl

/-- The interrupted stack pointer and a zero complete the frame, whose address is the
argument of the handler. -/
theorem exists_executes_handOver (filter : LogFilter) (hsp : h.core.read .sp = top - frameSize)
    (hframe : h.machine.memory.HasFrame top) :
  ∃ h', Hart.Executes filter [.readScratch .t0, .storeWord .t0 .sp (slot .sp),
      .storeWord .zero .sp (slot .zero), .mv .a0 .sp] h h'
      [storeEvent top .sp, storeEvent top .zero]
    ∧ h'.core.read .a0 = top - frameSize ∧ h'.core.read .sp = top - frameSize
    ∧ h.machine.memory.Reframed top
      (((h.machine.memory.frame top).set .sp h.core.mscratch).set .zero 0) h'.machine.memory
  := by
  have hkept : (h.core.write .t0 h.core.mscratch).read .sp = top - frameSize := by
    rw [Core.read_write_of_ne _ (by decide), hsp]
  have hscratch : (h.core.write .t0 h.core.mscratch).read .t0 = h.core.mscratch :=
    Core.read_write_self _ (by decide) _
  have hfirst := hframe.reframed_write .sp h.core.mscratch
  have hframe' := hframe.of_sameMap hfirst.map
  have hsecond := hframe'.reframed_write .zero 0
  rw [hfirst.frame] at hsecond
  have hstoreSp := run_storeSlot (h := ⟨h.core.write .t0 h.core.mscratch, h.machine⟩) filter
    .t0 .sp hkept hframe
  dsimp only at hstoreSp
  rw [hscratch] at hstoreSp
  have hstoreZero := run_storeSlot
    (h := Hart.withMemory ⟨h.core.write .t0 h.core.mscratch, h.machine⟩
      (h.machine.memory.write (slotAddr top .sp) (wordOctets h.core.mscratch))) filter
    .zero .zero hkept hframe'
  refine ⟨_, .cons (Hart.run_readScratch filter h .t0) (.cons hstoreSp (.cons hstoreZero
    (.cons (Hart.run_addi filter _ .a0 .sp 0) (Hart.executes_nil filter _)))), ?_, ?_,
    hfirst.trans hsecond⟩
  · rw [Core.read_write_self _ (by decide), UInt32.add_zero]
    apply hkept
  · rw [Core.read_write_of_ne _ (by decide)]
    apply hkept

/-- The handler is called with the registers that were interrupted in the frame below the top
of the trap stack.  Nothing outside this frame has been stored to. -/
structure Spilled (top : UInt32) (interrupted : Hart) (entry : Outcome Hart Unit) : Prop where
  returns : entry.result = .ok ()
  argument : entry.state.core.read .a0 = top - frameSize
  stack : entry.state.core.read .sp = top - frameSize
  memory : interrupted.machine.memory.Reframed top interrupted.core.visible
    entry.state.machine.memory
  stores : ∀ e ∈ entry.events, ∃ addr length, e = .store addr length
    ∧ top.toNat - 128 ≤ addr.toNat ∧ addr.toNat + length ≤ top.toNat

theorem spilled_enter (filter : LogFilter) (hscratch : h.core.mscratch = top)
    (hframe : h.machine.memory.HasFrame top) :
  Spilled top h (enter.run filter h)
  := by
  obtain ⟨c, hswap, hsp, hmscratch, hothers⟩ := exists_executes_swap filter hscratch
  obtain ⟨m, hstored, hstores⟩ := executes_stores (h := { h with core := c }) filter spilled hsp
    hframe
  obtain ⟨h', hhandOver, hargument, hstack, hframed⟩ := exists_executes_handOver
    (h := Hart.withMemory { h with core := c } m) filter hsp (hframe.of_sameMap hstored.map)
  have hrun : enter.run filter h = ⟨.ok (), h', _⟩ := (hswap.append hstores).append hhandOver
  -- The slot of the stack pointer is filled from the scratch register, where the swap has put
  -- it, and that of the zero register last: the old words of the frame are all gone.
  have hwords : (((h.machine.memory.frame top).setAll c.read spilled).set .sp c.mscratch).set
      .zero 0 = h.core.visible := by
    ext r
    rw [Core.get_visible]
    by_cases hzero : r = .zero
    · subst hzero
      rw [Registers.get_set_self, Core.read_zero]
    · rw [Registers.get_set_of_ne _ _ (Ne.symm hzero)]
      by_cases hstackPointer : r = .sp
      · subst hstackPointer
        rw [Registers.get_set_self, hmscratch]
      · rw [Registers.get_set_of_ne _ _ (Ne.symm hstackPointer), Registers.get_setAll,
          if_pos (mem_spilled.mpr ⟨hzero, hstackPointer⟩), hothers r hstackPointer]
  rw [hrun]
  constructor
  · rfl
  · apply hargument
  · apply hstack
  · rw [Hart.memory_withMemory, Hart.core_withMemory, hstored.frame] at hframed
    rw [← hwords]
    apply hstored.trans hframed
  · intro e he
    obtain ⟨r, rfl⟩ : ∃ r, e = storeEvent top r := by
      simp only [List.nil_append, List.mem_append, List.mem_map, List.mem_cons,
        List.not_mem_nil, or_false] at he
      rcases he with ⟨r, -, rfl⟩ | rfl | rfl
      · use r
      · use .sp
      · use .zero
    have hr := r.isLt
    have hfits := hframe.fits
    use slotAddr top r, 4, rfl
    rw [toNat_slotAddr hfits]
    omega

/-! ### Leaving the handler -/

/-- The sandbox resumes with the registers that the handler has left in the frame, and the
trap stack is where it was.  Nothing is stored. -/
structure Restored (top : UInt32) (handled : Hart) (exit : Outcome Hart Unit) : Prop where
  returns : exit.result = .ok ()
  registers : ∀ r ≠ .zero,
    exit.state.core.read r = (handled.machine.memory.frame top).get r
  scratch : exit.state.core.mscratch = top
  memory : exit.state.machine.memory = handled.machine.memory
  stores : exit.events = []

/-- The trap stack is put back into the scratch register. -/
theorem exists_executes_rearm (filter : LogFilter) (hsp : h.core.read .sp = top - frameSize) :
  ∃ c, Hart.Executes filter [.addi .t0 .sp frameSize, .writeScratch .t0] h
      { h with core := c } []
    ∧ c.read .sp = top - frameSize ∧ c.mscratch = top
  := by
  refine ⟨_, .cons (Hart.run_addi filter h .t0 .sp frameSize)
    (.cons (Hart.run_writeScratch filter _ .t0) (Hart.executes_nil filter _)), ?_, ?_⟩
  · apply (Core.read_write_of_ne h.core (by decide) _).trans hsp
  · rw [Core.read_write_self _ (by decide), hsp, UInt32.sub_add_cancel]

/-- The registers are taken from the frame, the stack pointer last. -/
theorem exists_executes_restore (filter : LogFilter) (hsp : h.core.read .sp = top - frameSize)
    (hframe : h.machine.memory.HasFrame top) :
  ∃ c, Hart.Executes filter restore h { h with core := c } [] ∧ c.mscratch = top
    ∧ ∀ r ≠ .zero, c.read r = (h.machine.memory.frame top).get r
  := by
  have hnotSpilled : Reg.sp ∉ spilled := fun hmem => (mem_spilled.mp hmem).2 rfl
  obtain ⟨c, hrearm, hstack, hscratch⟩ := exists_executes_rearm filter hsp
  have hloads := executes_loads (h := { h with core := c }) filter hnotSpilled hstack hframe
  have hkept : (c.writeAll (h.machine.memory.frame top).get spilled).read .sp
      = top - frameSize := by
    rw [Core.read_writeAll _ _ _ (by decide), if_neg hnotSpilled, hstack]
  have hlast := run_loadSlot
    (h := { h with core := c.writeAll (h.machine.memory.frame top).get spilled }) filter .sp hkept
    hframe
  refine ⟨_, (hrearm.append hloads).append (.cons hlast (Hart.executes_nil filter _)), ?_, ?_⟩
  · rw [Core.mscratch_write, Core.mscratch_writeAll, hscratch]
  · intro r hr
    by_cases hstackPointer : r = .sp
    · subst hstackPointer
      rw [Core.read_write_self _ hr]
    · rw [Core.read_write_of_ne _ hstackPointer, Core.read_writeAll _ _ _ hr,
        if_pos (mem_spilled.mpr ⟨hr, hstackPointer⟩)]

/-- When the registers have been restored, the hart returns from the trap. -/
theorem run_leave {h' : Hart} {events : List Event}
    (hrestore : Hart.Executes filter restore h h' events) :
  leave.run filter h = ⟨.ok (), Hart.returnFromTrap h', events⟩
  := by
  rw [leave, run_bind, hrestore]
  simp only [run_modify, List.append_nil]

theorem restored_leave (filter : LogFilter) (hsp : h.core.read .sp = top - frameSize)
    (hframe : h.machine.memory.HasFrame top) :
  Restored top h (leave.run filter h)
  := by
  obtain ⟨c, hrestore, hscratch, hregisters⟩ := exists_executes_restore filter hsp hframe
  rw [run_leave hrestore]
  exact ⟨rfl, hregisters, hscratch, rfl, rfl⟩

/-! ### One trap after another -/

/-- What happens from one return to user mode to the next: a program runs until a trap is
taken, and a handler answers it.  A program in user mode cannot reach the scratch register; a
handler keeps the stack pointer, as any function does. -/
structure Visit where
  program : Hart → Hart
  mcause : UInt32
  mtval : UInt32
  mepc : UInt32
  handler : Hart → Hart
  mscratch_program : ∀ h : Hart, (program h).core.mscratch = h.core.mscratch
  map_program : ∀ h : Hart, h.machine.memory.SameMap (program h).machine.memory
  sp_handler : ∀ h : Hart, (handler h).core.read .sp = h.core.read .sp
  map_handler : ∀ h : Hart, h.machine.memory.SameMap (handler h).machine.memory

/-- A trap as it went. -/
structure Round where
  /-- The hart that takes the trap. -/
  interrupted : Hart
  /-- How the handler was called. -/
  entry : Outcome Hart Unit
  /-- The hart that the handler has left. -/
  handled : Hart
  /-- How the sandbox was resumed. -/
  exit : Outcome Hart Unit

/-- A visit to the sandbox and the trap that ends it. -/
def Visit.round (filter : LogFilter) (h : Hart) (visit : Visit) : Round :=
  let interrupted := Hart.takeTrap visit.mcause visit.mtval visit.mepc (visit.program h)
  let entry := enter.run filter interrupted
  let handled := visit.handler entry.state
  ⟨interrupted, entry, handled, leave.run filter handled⟩

/-- The traps of one visit after another. -/
def rounds (filter : LogFilter) (h : Hart) : List Visit → List Round
  | [] => []
  | visit :: rest =>
    visit.round filter h :: rounds filter (visit.round filter h).exit.state rest

/-- The handler has seen the interrupted registers, and the sandbox sees what the handler has
made of them. -/
structure Round.Faithful (top : UInt32) (round : Round) : Prop where
  spilled : Spilled top round.interrupted round.entry
  restored : Restored top round.handled round.exit

theorem Visit.faithful_round (filter : LogFilter) (visit : Visit) (hscratch : h.core.mscratch = top)
    (hframe : h.machine.memory.HasFrame top) :
  (visit.round filter h).Faithful top
    ∧ (visit.round filter h).exit.state.machine.memory.HasFrame top
  := by
  have hinterrupted := hframe.of_sameMap (visit.map_program h)
  have hspilled := spilled_enter (h := (visit.round filter h).interrupted) filter
    ((visit.mscratch_program h).trans hscratch) hinterrupted
  have hhandled := (hinterrupted.of_sameMap hspilled.memory.map).of_sameMap
    (visit.map_handler (visit.round filter h).entry.state)
  have hrestored := restored_leave filter ((visit.sp_handler _).trans hspilled.stack) hhandled
  constructor
  · exact ⟨hspilled, hrestored⟩
  · apply hhandled.of_sameMap
    intro _ _
    apply congrArg (Memory.holds · _ _) hrestored.memory

/-- However many traps are taken one after another, each hands over the registers that it has
interrupted and resumes with the registers that the handler has left in the frame. -/
theorem faithful_rounds (filter : LogFilter) (hscratch : h.core.mscratch = top)
    (hframe : h.machine.memory.HasFrame top) (visits : List Visit) :
  ∀ round ∈ rounds filter h visits, round.Faithful top
  := by
  -- The next trap finds what this one has found: the trap stack in the scratch register, and
  -- memory for its frame.
  induction visits generalizing h with
  | nil => apply List.forall_mem_nil
  | cons visit rest ih =>
    obtain ⟨hfaithful, hframe'⟩ := visit.faithful_round filter hscratch hframe
    rw [rounds, List.forall_mem_cons]
    use hfaithful
    apply ih hfaithful.restored.scratch hframe'

/-- A hart in user mode whose trap stack has room for one frame, below 0x80000080. -/
def oneFrame : Hart where
  core := { Core.reset with mscratch := 0x80000080, mode := .user }
  machine := {
    bank := .clear
    counters := .silent
    memory := ⟨[.zeros 0x80000000 128]⟩
    mcause := 0
    mepc := 0
    mtval := 0
    mpp := .user
    mie := false }

/-- A program puts 7 into a register and calls; the handler answers 42. -/
def answered : Visit where
  program h := { h with core := h.core.write .s0 7 }
  mcause := 8
  mtval := 0
  mepc := 0x80000000
  handler h :=
    { h with core := h.core.write .t1 0 }.withMemory
      (h.machine.memory.write (slotAddr 0x80000080 .a0) (wordOctets 42))
  mscratch_program h := h.core.mscratch_write .s0 7
  map_program _ _ _ := rfl
  sp_handler h := h.core.read_write_of_ne (by decide) 0
  map_handler h addr length := h.machine.memory.holds_write _ addr _ length

/-- Two calls in a row are both answered faithfully. -/
theorem faithful_rounds_answered :
  ∃ first second, rounds .off oneFrame [answered, answered] = [first, second]
    ∧ first.Faithful 0x80000080 ∧ second.Faithful 0x80000080
  := by
  have hholds : oneFrame.machine.memory.holds (0x80000080 - frameSize) 128 = true := by
    simp [Memory.holds, oneFrame, Segment.holds, Segment.zeros, frameSize]
  have hframe := Memory.hasFrame_of_holds (by decide) hholds
  have hfaithful := faithful_rounds (h := oneFrame) .off rfl hframe [answered, answered]
  refine ⟨_, _, rfl, ?_, ?_⟩
  · apply hfaithful _ List.mem_cons_self
  · apply hfaithful _ (List.mem_cons_of_mem _ List.mem_cons_self)

end TrapVector

end SandboxMonitor
