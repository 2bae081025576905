import SandboxMonitor.Firmware.Basic
import SandboxMonitor.Proofs.Firmware.Services
import SandboxMonitor.Proofs.Firmware.Turns
import SandboxMonitor.Proofs.Monitor.Trap

/-!
# Calls through the trap vector

A trap of the program is three things after one another (`Firmware.nextTrap_eq`): the program
runs until it is interrupted, the hart takes the trap and hands a frame to the handler, and the
monitor answers and returns to the program.  When the program calls, the frame holds its
registers (`Firmware.exists_enterTrap`), and it goes on behind the call with the answer in them
(`Firmware.exists_answerTrap`).
-/

namespace SandboxMonitor.Firmware

open SandboxMonitor.Action TrapVector

/-! ### The parts of a trap -/

/-- The hart takes the trap of what interrupts the program at an address, and hands a frame to
the handler. -/
def enterTrap (addr : UInt32) (why : Interruption) : Action Firmware (UInt32 × Registers) := do
  let mode ← .gets fun fw => fw.core.mode
  onHart (.modify (Hart.takeTrap (why.cause mode) why.value addr))
  followVector
  onHart TrapVector.enter
  let place ← onHart (Hart.readReg .a0)
  let frame ← onHart (Hart.loadFrame place)
  return (place, frame)

/-- What the handler does with the outcome of a trap. -/
def conclude (place : UInt32) : TrapOutcome × Registers → Action Firmware Unit
  | (.resume, frame) => onHart (Hart.storeFrame place frame)
  | (.halt _, _) => onMonitor Monitor.halt

/-- The monitor answers a trap, and the hart returns to the program. -/
def answerTrap (place : UInt32) (frame : Registers) : Action Firmware Unit := do
  conclude place (← onMonitor (Monitor.handleTrap frame))
  onHart TrapVector.leave

theorem nextTrap_eq :
  nextTrap = runProgram >>= fun
    | none => .stop .astray
    | some (addr, why) =>
      enterTrap addr why >>= fun entered => answerTrap entered.1 entered.2
  := by
  rw [nextTrap]
  congr 1
  funext interrupted
  cases interrupted with
  | none => rfl
  | some interrupted =>
    simp only [trap, handle, enterTrap, answerTrap, bind_assoc, pure_bind]
    rfl

variable {α : Type} {filter : LogFilter} {fw : Firmware} {line : List UInt8} {site : Nat}

/-- The firmware with another hart. -/
def withHart (fw : Firmware) (h : Hart) : Firmware :=
  ⟨h.core, { fw.monitor with desk := fw.monitor.desk.withMachine h.machine }⟩

@[simp]
theorem hart_withHart (fw : Firmware) (h : Hart) :
  (fw.withHart h).hart = h
  := rfl

@[simp]
theorem withHart_withHart (fw : Firmware) (h h' : Hart) :
  (fw.withHart h).withHart h' = fw.withHart h'
  := rfl

theorem run_onHart (a : Action Hart α) (filter : LogFilter) (fw : Firmware) :
  (onHart a).run filter fw
    = ⟨(a.run filter fw.hart).result, fw.withHart (a.run filter fw.hart).state,
        (a.run filter fw.hart).events⟩
  := rfl

theorem run_onMonitor (a : Action (Monitor PackedBank) α) (filter : LogFilter) (fw : Firmware) :
  (onMonitor a).run filter fw
    = ⟨(a.run filter fw.monitor).result, ⟨fw.core, (a.run filter fw.monitor).state⟩,
        (a.run filter fw.monitor).events⟩
  := rfl

/-- Stores put nothing on the serial line. -/
theorem transmitted_eq_nil {events : List Event}
    (h : ∀ e ∈ events, ∃ addr length, e = .store addr length) :
  transmitted events = []
  := by
  rw [transmitted, List.flatMap_eq_nil_iff]
  intro e he
  obtain ⟨addr, length, rfl⟩ := h e he
  rfl

theorem run_runProgram (filter : LogFilter) {index site : Nat}
    (hindex : Program.indexOf? fw.hart.machine.mepc = some index) {why : Interruption}
    {h : Hart} {events : List Event}
    (hadvance : (Program.advance Program.steps.length index).run filter fw.hart
      = ⟨.ok (some (site, why)), h, events⟩) :
  runProgram.run filter fw = ⟨.ok (some (Program.address site, why)), fw.withHart h, events⟩
  := by
  rw [runProgram, run_gets_bind (fun fw : Firmware => fw.hart.machine.mepc) _ filter rfl, hindex]
  dsimp only
  rw [run_bind, run_onHart, hadvance]
  simp only [run_pure, List.append_nil, Option.map_some]

/-- Traps that go to the trap vector are followed there. -/
theorem run_followVector (filter : LogFilter) (hvector : fw.core.mtvec = trapVector) :
  followVector.run filter fw = ⟨.ok (), fw, []⟩
  := by
  have hvectored : (!isVectored fw.hart) = false := by
    rw [isVectored, Bool.not_eq_false', decide_eq_true_eq]
    apply hvector
  rw [followVector, run_gets_bind (fun fw : Firmware => !isVectored fw.hart) _ filter hvectored]
  rfl

/-! ### The frame of a call -/

/-- What the hart is like when it takes the trap of a call from user mode. -/
def calling (site : Nat) (h : Hart) : Hart := Hart.takeTrap 8 0 (Program.address site) h

/-- The hart has taken the trap of a call and has its frame on the trap stack. -/
structure Entered (site : Nat) (h h' : Hart) : Prop where
  stack : h'.core.read .sp = trapStackTop - frameSize
  memory : h.machine.memory.Reframed trapStackTop h.core.visible h'.machine.memory
  control : (calling site h).SameControl h'

/-- The handler is handed a frame with the registers of the program. -/
theorem exists_enterTrap (filter : LogFilter) (fw : Firmware) (site : Nat)
    (hready : Ready fw.core fw.hart.machine.bank) (hmemory : Loaded line fw.hart.machine.memory) :
  ∃ h events, (enterTrap (Program.address site) .call).run filter fw
      = ⟨.ok (trapStackTop - frameSize, fw.core.visible), fw.withHart h, events⟩
    ∧ Entered site fw.hart h ∧ transmitted events = []
  := by
  have hspilled := spilled_enter (h := calling site fw.hart) filter hready.scratch
    hmemory.hasFrame
  have hsame := (Hart.confined_execAll spill filter _ (.refl (calling site fw.hart))).1
  rw [← TrapVector.enter] at hsame
  rcases hrun : enter.run filter (calling site fw.hart) with ⟨result, h, events⟩
  rw [hrun] at hspilled hsame
  obtain rfl : result = .ok () := hspilled.returns
  have hframed : fw.hart.machine.memory.Reframed trapStackTop fw.core.visible h.machine.memory :=
    hspilled.memory
  have hload := Hart.run_loadFrame filter (h := h) (hmemory.hasFrame.of_sameMap hframed.map)
  rw [hframed.frame] at hload
  refine ⟨h, events, ?_, ⟨hspilled.stack, hframed, hsame⟩, ?_⟩
  · have hargument : h.core.read .a0 = trapStackTop - frameSize := hspilled.argument
    have hfollow : followVector.run filter (fw.withHart (calling site fw.hart))
        = ⟨.ok (), fw.withHart (calling site fw.hart), []⟩ :=
      run_followVector filter hready.vector
    have htake : (onHart (.modify (calling site))).run filter fw
        = ⟨.ok (), fw.withHart (calling site fw.hart), []⟩ := rfl
    rw [enterTrap, run_gets_bind (fun fw : Firmware => fw.core.mode) _ filter hready.mode]
    change (onHart (.modify (calling site)) >>= _).run filter fw = _
    rw [run_bind, htake]
    dsimp only
    rw [run_bind, hfollow]
    dsimp only
    rw [run_bind, run_onHart, hart_withHart, hrun]
    dsimp only
    rw [run_bind, run_onHart, withHart_withHart, hart_withHart, Hart.readReg, run_gets, hargument]
    dsimp only
    rw [run_bind, run_onHart, withHart_withHart, hart_withHart, hload]
    simp only [run_pure, withHart_withHart, List.nil_append, List.append_nil]
  · apply transmitted_eq_nil
    intro e he
    obtain ⟨addr, length, rfl, -⟩ := hspilled.stores e he
    use addr, length

/-! ### The answer to a call -/

/-- The desk as a session has it, with what is left to read and what the counters will say. -/
structure Serving (queue : List UInt8) (cs : Counters) (d : Desk PackedBank) : Prop where
  line : d.line = ⟨queue, false, true⟩
  engine : d.engine = ⟨⟨[digest]⟩⟩
  window : d.window = ⟨userBuffer, userStackTop.toNat⟩
  delivery : d.delivery = .forward
  counters : d.machine.counters = cs

/-- The handler has the trap of a program that was set up for the sandbox. -/
structure Handling (line : List UInt8) (fw : Firmware) : Prop where
  phase : fw.monitor.phase = .sandboxed
  vector : fw.core.mtvec = trapVector
  stack : fw.core.read .sp = trapStackTop - frameSize
  grants : Grants fw.monitor.desk.machine.bank
  memory : Loaded line fw.monitor.desk.machine.memory

/-- The handler is about to answer a call. -/
structure Trapped (site : Nat) (line : List UInt8) (fw : Firmware) : Prop where
  handling : Handling line fw
  cause : fw.monitor.desk.machine.mcause = 8
  masked : fw.monitor.desk.machine.mie = false
  resumes : fw.monitor.desk.machine.mepc = Program.address site

/-- The program goes on behind a call, with registers from a frame. -/
structure Resumed (site : Nat) (line : List UInt8) (frame : Registers) (fw : Firmware) : Prop where
  phase : fw.monitor.phase = .sandboxed
  resumes : fw.monitor.desk.machine.mepc = Program.address (site + 1)
  ready : Ready fw.core fw.monitor.desk.machine.bank
  registers : ∀ r ≠ .zero, fw.core.read r = frame.get r
  memory : Loaded line fw.monitor.desk.machine.memory

/-- The steps of the program are four bytes apart. -/
theorem address_add_four (index : Nat) :
  Program.address index + 4 = Program.address (index + 1)
  := by
  rw [Program.address, Program.address, UInt32.add_assoc, Nat.mul_add, UInt32.ofNat_add]
  rfl

/-- A frame that is put back on the trap stack is what the program resumes with, in user mode
when this is the mode to return to. -/
theorem exists_leave (filter : LogFilter) (frame : Registers) (hhandling : Handling line fw)
    (hresumes : fw.monitor.desk.machine.mepc = Program.address (site + 1))
    (hprevious : fw.monitor.desk.machine.mpp = .user) :
  ∃ h, (do
      onHart (Hart.storeFrame (trapStackTop - frameSize) frame)
      onHart TrapVector.leave).run filter fw = ⟨.ok (), fw.withHart h, []⟩
    ∧ Resumed site line frame (fw.withHart h)
    ∧ h.machine.counters = fw.monitor.desk.machine.counters
  := by
  have hmemory := hhandling.memory
  have hframed := Memory.reframed_write_frame hmemory.apart (by decide) hmemory.holds_frame frame
  have hwritten := hmemory.of_reframed (Memory.extents_write _ _ _) hframed
  let written := fw.hart.withMemory
    (fw.hart.machine.memory.write (trapStackTop - frameSize) (Memory.frameOctets frame))
  obtain ⟨c, hrestore, hscratch, hregisters⟩ := exists_executes_restore (h := written) filter
    hhandling.stack hwritten.hasFrame
  have hsame := (Hart.confined_execAll restore filter _ (.refl written)).1
  rw [hrestore] at hsame
  use Hart.returnFromTrap { written with core := c }
  refine ⟨?_, ⟨hhandling.phase, hresumes, ?_, ?_, hwritten⟩, rfl⟩
  · rw [run_bind, run_onHart, Hart.run_storeFrame filter hmemory.holds_frame]
    dsimp only
    rw [run_onHart, hart_withHart, run_leave hrestore]
    rfl
  · constructor
    · apply hprevious
    · apply (congrArg Core.mtvec hsame.core).trans hhandling.vector
    · apply hscratch
    · apply hhandling.grants
  · rw [Hart.memory_withMemory] at hregisters
    intro r hr
    rw [← hframed.frame]
    apply hregisters r hr

section Answer

variable {frame : Registers} {call : Call} {d : Desk PackedBank} {events : List Event}
  {queue : List UInt8} {cs : Counters}

/-- A call that the desk accepts is answered, and the program goes on behind it. -/
theorem exists_answerTrap (htrapped : Trapped site line fw) (hsite : site < Program.steps.length)
    (hcall : Call.ofId? (frame.get .a7) = some call) {answer : Option UInt32}
    (hdispatch : (Desk.dispatch call (frame.get .a0) (frame.get .a1)).run logFilter
      fw.monitor.desk = ⟨.ok (.ok answer), d, events⟩)
    (hmachine : d.machine = { fw.monitor.desk.machine with counters := d.machine.counters })
    (hserving : Serving queue cs d) :
  ∃ fw', (answerTrap (trapStackTop - frameSize) frame).run logFilter fw = ⟨.ok (), fw', events⟩
    ∧ Resumed site line (frame.withAnswer answer) fw' ∧ Serving queue cs fw'.monitor.desk
  := by
  have hphase : fw.monitor.phase ≠ .halted := by
    rw [htrapped.handling.phase]
    decide
  have hmepc : d.machine.mepc = Program.address site := by
    rw [hmachine]
    apply htrapped.resumes
  have hresumes : d.machine.mepc + 4 = Program.address (site + 1) := by
    rw [hmepc, address_add_four]
  have hhandling : Handling line ⟨fw.core, { fw.monitor with desk := d.resumed 4 }⟩ := by
    constructor
    · apply htrapped.handling.phase
    · apply htrapped.handling.vector
    · apply htrapped.handling.stack
    · change Grants d.machine.bank
      rw [hmachine]
      apply htrapped.handling.grants
    · change Loaded line d.machine.memory
      rw [hmachine]
      apply htrapped.handling.memory
  have hlength : d.machine.memory.instructionLength? d.machine.mepc = some 4 := by
    rw [hmepc]
    apply hhandling.memory.instructionLength?_eq hsite
  have hhandle := Monitor.run_handleTrap_of_serve hphase htrapped.cause htrapped.masked
    (Desk.run_serve hcall hdispatch hlength)
  obtain ⟨h, hleave, hresumed, hcounters⟩ := exists_leave logFilter (frame.withAnswer answer)
    hhandling hresumes rfl
  refine ⟨_, ?_, hresumed, ⟨hserving.line, hserving.engine, hserving.window, hserving.delivery,
    hcounters.trans hserving.counters⟩⟩
  rw [answerTrap, run_bind, run_onMonitor, hhandle]
  dsimp only
  rw [conclude, hleave, List.append_nil]

/-- A call that waits for ever keeps the program from going on, but does not halt it. -/
theorem exists_answerTrap_of_stop (htrapped : Trapped site line fw)
    (hcall : Call.ofId? (frame.get .a7) = some call) {why : Stop}
    (hdispatch : (Desk.dispatch call (frame.get .a0) (frame.get .a1)).run logFilter
      fw.monitor.desk = ⟨.error why, d, events⟩) :
  ∃ fw', (answerTrap (trapStackTop - frameSize) frame).run logFilter fw
      = ⟨.error why, fw', events⟩
    ∧ fw'.monitor.phase = .trapped
  := by
  have hphase : fw.monitor.phase ≠ .halted := by
    rw [htrapped.handling.phase]
    decide
  have hhandle := Monitor.run_handleTrap_of_stop hphase htrapped.cause htrapped.masked
    (Desk.run_serve_of_stop hcall hdispatch)
  rw [answerTrap, run_bind, run_onMonitor, hhandle]
  exact ⟨_, rfl, rfl⟩

end Answer

end SandboxMonitor.Firmware
