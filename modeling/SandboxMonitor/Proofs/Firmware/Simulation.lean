import SandboxMonitor.Proofs.Firmware.Calls

/-!
# The firmware and the console

The firmware shows a console (`Firmware.Shows`) when its program stands at the point of the
console, in user mode, with the line of the console in its buffer.  Each call of the program then
puts on the serial line what `Console.step` says and leaves the firmware showing the next console
(`Firmware.Shows.step`), so a run says what the console says (`Firmware.exists_run_idle`).
-/

namespace SandboxMonitor.Firmware

open SandboxMonitor.Action TrapVector

/-- The value that a call has answered before the program goes on. -/
def Point.answer : Point → Option UInt32
  | received b => some b.toUInt32
  | _ => none

/-! ### What the desk does -/

section Dispatch

variable {d : Desk PackedBank} {line queue : List UInt8} {cs : Counters} {arg0 arg1 : UInt32}

/-- The desk takes the line in the buffer for an input. -/
theorem Serving.checkInfer_eq (hserving : Serving queue cs d) (hline : line ≠ [])
    (hmemory : Loaded line d.machine.memory) :
  d.checkInfer userBuffer (.ofNat line.length) = .ok ()
  := by
  have hpositive := List.length_pos_of_ne_nil hline
  have hbuffer : userBuffer.toNat = 0x80028000 := rfl
  have htop : userStackTop.toNat = 0x80030000 := rfl
  have hcapacity : userBufferLength.toNat = 0x800 := rfl
  have hsize : UInt32.size = 0x100000000 := rfl
  have hroom := hmemory.room
  have hlength := hmemory.toNat_length
  rw [Desk.checkInfer_eq_ok_iff, hserving.window, hserving.delivery]
  refine ⟨⟨?_, ?_⟩, trivial⟩
  · rw [DataWindow.admits, Bool.and_eq_true, Bool.and_eq_true, decide_eq_true_eq,
      decide_eq_true_eq, decide_eq_true_eq, hlength]
    dsimp only
    refine ⟨⟨?_, UInt32.le_refl _⟩, ?_⟩
    · omega
    · omega
  · intro hzero
    rw [hzero] at hlength
    change 0 = line.length at hlength
    omega

/-- The scores of the line in the buffer go out. -/
theorem Serving.exists_infer (hserving : Serving queue cs d) (hline : line ≠ [])
    (hmemory : Loaded line d.machine.memory) :
  ∃ events, (Desk.dispatch .infer userBuffer (.ofNat line.length)).run logFilter d
      = ⟨.ok (.ok none), d, events⟩
    ∧ transmitted events = scoreLine line
  := by
  obtain ⟨text, htext, hsaid⟩ := writeScores?_digestScores line
  have hmodel : d.engine.model line = .ok (digestScores (digestOf line)) := by
    rw [hserving.engine]
    change digest line = _
    rw [digest, if_neg]
    rw [List.isEmpty_iff]
    apply hline
  have hengine : { d with engine := d.engine.advance } = d := by
    have hadvance : d.engine.advance = d.engine := by
      rw [hserving.engine]
      rfl
    rw [hadvance]
  have hinput : d.machine.memory.read? userBuffer (UInt32.ofNat line.length).toNat = some line := by
    rw [hmemory.toNat_length, hmemory.buffer]
  have hinfer := Desk.run_infer (hserving.checkInfer_eq hline hmemory) hserving.delivery hinput
    hmodel htext
  rw [hengine] at hinfer
  refine ⟨_, hinfer, ?_⟩
  rw [← hsaid]
  simp [transmittedBy]

/-- What an accepted call does to the desk is what the console says. -/
theorem exists_dispatch {c c' : Console} {said : List UInt8} (hstep : c.step = some (said, c'))
    (hserving : Serving c.queue c.counters d) (hmemory : Loaded c.grown d.machine.memory)
    (harguments : (c.point.ask c.line).Passes c.grown arg0 arg1) :
  ∃ d' events, (Desk.dispatch (c.point.ask c.line).call arg0 arg1).run logFilter d
      = ⟨.ok (.ok c'.point.answer), d', events⟩
    ∧ transmitted events = said
    ∧ d'.machine = { d.machine with counters := d'.machine.counters }
    ∧ Serving c'.queue c'.counters d'
  := by
  rw [Console.step] at hstep
  cases hask : c.point.ask c.line with
  | byte =>
    rw [hask] at hstep
    cases hqueue : c.queue with
    | nil =>
      rw [hqueue] at hstep
      cases hstep
    | cons b rest =>
      rw [hqueue] at hstep
      cases hstep
      rw [hqueue] at hserving
      refine ⟨_, _, Desk.run_getByte hserving.line arg0 arg1, rfl, rfl, ?_⟩
      exact ⟨rfl, hserving.engine, hserving.window, hserving.delivery, hserving.counters⟩
  | send b next =>
    rw [hask] at hstep harguments
    cases hstep
    obtain rfl : arg0.toUInt8 = b := harguments
    have hput := Desk.run_putByte hserving.line arg0 arg1
    have hanswer : next.answer = none := by
      rcases Point.next_of_ask hask with rfl | rfl | rfl <;> rfl
    rw [← hanswer] at hput
    exact ⟨_, _, hput, rfl, rfl, hserving⟩
  | scores =>
    rw [hask] at hstep harguments
    cases hstep
    obtain ⟨rfl, rfl⟩ := harguments
    obtain ⟨events, hinfer, hsaid⟩ := hserving.exists_infer (Point.grow_ne_nil hask) hmemory
    exact ⟨d, events, hinfer, hsaid, rfl, hserving⟩
  | counters =>
    rw [hask] at hstep harguments
    cases hstep
    obtain rfl : arg0 = 0 := harguments
    obtain ⟨events, hread, hsaid⟩ := Desk.run_readCounters (d := d) arg1
    rw [hserving.counters] at hread hsaid
    exact ⟨_, events, hread, hsaid, rfl, hserving.line, hserving.engine, hserving.window,
      hserving.delivery, rfl⟩

end Dispatch

/-! ### One call -/

/-- The firmware goes on with the program as the console says. -/
structure Shows (c : Console) (fw : Firmware) : Prop where
  phase : fw.monitor.phase = .sandboxed
  serving : Serving c.queue c.counters fw.monitor.desk
  resumes : fw.monitor.desk.machine.mepc = Program.address c.point.index
  poised : Poised c.line fw.core fw.monitor.desk.machine c.point

/-- The program comes to its call, where the firmware is `called`, and the handler has its
frame, where the firmware is `handed`. -/
structure Arrives (c : Console) (fw called handed : Firmware) (stores spills : List Event) :
    Prop where
  run : runProgram.run logFilter fw
    = ⟨.ok (some (Program.address (c.point.ask c.line).site, .call)), called, stores⟩
  inBuffer : ∀ e ∈ stores, StoresInBuffer e
  calls : Calls (c.point.ask c.line) c.grown called.core called.monitor.desk.machine
  enter : (enterTrap (Program.address (c.point.ask c.line).site) .call).run logFilter called
    = ⟨.ok (trapStackTop - frameSize, called.core.visible), handed, spills⟩
  silent : transmitted spills = []
  trapped : Trapped (c.point.ask c.line).site c.grown handed
  serving : Serving c.queue c.counters handed.monitor.desk

section Step

variable {c c' : Console} {fw : Firmware} {said : List UInt8}

theorem Shows.exists_arrives (h : Shows c fw) :
  ∃ called handed stores spills, Arrives c fw called handed stores spills
  := by
  have hreached := reached_of_poised logFilter h.poised
  rcases hadvance : (Program.advance Program.steps.length c.point.index).run logFilter
    ⟨fw.core, fw.monitor.desk.machine⟩ with ⟨result, h₁, stores⟩
  rw [hadvance] at hreached
  obtain rfl : result = .ok (some ((c.point.ask c.line).site, .call)) := hreached.returns
  have hcalls : Calls (c.point.ask c.line) c.grown h₁.core h₁.machine := hreached.calls
  obtain ⟨h₂, spills, henter, hentered, hsilent⟩ := exists_enterTrap logFilter
    (fw.withHart h₁) (c.point.ask c.line).site hcalls.held.ready hcalls.held.memory
  have hmachine := hentered.control.machine.machine
  refine ⟨_, _, stores, spills, ?_, hreached.stores, hcalls, henter, hsilent, ?_, ?_⟩
  · apply run_runProgram logFilter _ hadvance
    rw [hart, h.resumes, indexOf?_address c.point.index_lt]
  · constructor
    · constructor
      · apply h.phase
      · apply (congrArg Core.mtvec hentered.control.core).trans hcalls.held.ready.vector
      · apply hentered.stack
      · change Grants h₂.machine.bank
        rw [hmachine]
        apply hcalls.held.ready.grants
      · apply hcalls.held.memory.of_reframed hentered.control.machine.extents hentered.memory
    · apply (congrArg Machine.mcause hmachine).trans rfl
    · apply (congrArg Machine.mie hmachine).trans rfl
    · apply (congrArg Machine.mepc hmachine).trans rfl
  · have hcounters : h₂.machine.counters = fw.monitor.desk.machine.counters :=
      (congrArg Machine.counters hmachine).trans
        ((congrArg Machine.counters hreached.machine.machine).trans rfl)
    exact ⟨h.serving.line, h.serving.engine, h.serving.window, h.serving.delivery,
      hcounters.trans h.serving.counters⟩

/-- The trap of a call runs as its parts do. -/
theorem Arrives.run_nextTrap {called handed fw' : Firmware} {stores spills events : List Event}
    {result : Except Stop Unit} (h : Arrives c fw called handed stores spills)
    (hanswer : (answerTrap (trapStackTop - frameSize) called.core.visible).run logFilter handed
      = ⟨result, fw', events⟩) :
  nextTrap.run logFilter fw = ⟨result, fw', stores ++ (spills ++ events)⟩
  := by
  rw [nextTrap_eq]
  apply run_bind_of_ok h.run (run_bind_of_ok h.enter hanswer)

theorem Arrives.transmitted_eq {called handed : Firmware} {stores spills : List Event}
    (h : Arrives c fw called handed stores spills) (events : List Event) :
  transmitted (stores ++ (spills ++ events)) = transmitted events
  := by
  have hstores : transmitted stores = [] := by
    apply transmitted_eq_nil
    intro e he
    obtain ⟨addr, rfl, -⟩ := h.inBuffer e he
    use addr, 1
  rw [transmitted_append, transmitted_append, hstores, h.silent, List.nil_append, List.nil_append]

/-- The program that resumes behind a call is at the next point. -/
theorem poised_of_resumed {core : Core} {m : Machine PackedBank} {line : List UInt8} {site : Nat}
    {point : Point} (hheld : Held line core m) (hpoint : point ≠ .start)
    (h : Resumed site line (core.visible.withAnswer point.answer) fw) :
  Poised line fw.core fw.monitor.desk.machine point
  := by
  have hkept : ∀ r ≠ .zero, r ≠ .a0 → fw.core.read r = core.read r := by
    intro r hzero hanswer
    rw [h.registers r hzero, Registers.get_withAnswer_of_ne _ _ hanswer, Core.get_visible]
  have hheld' : Held line fw.core fw.monitor.desk.machine := by
    constructor
    · rw [hkept _ (by decide) (by decide), hheld.buffer]
    · rw [hkept _ (by decide) (by decide), hheld.capacity]
    · rw [hkept _ (by decide) (by decide), hheld.count]
    · apply h.ready
    · apply h.memory
  cases point with
  | start => contradiction
  | received b =>
    use hheld'
    rw [h.registers _ (by decide)]
    apply Registers.get_set_self
  | _ => apply hheld'

/-- The frame of a call asks for what the program asks for. -/
theorem Arrives.ofId?_eq {called handed : Firmware} {stores spills : List Event}
    (h : Arrives c fw called handed stores spills) :
  Call.ofId? (called.core.visible.get .a7) = some (c.point.ask c.line).call
  := by
  rw [Core.get_visible, h.calls.number, Call.ofId?_eq_some_iff]

/-- A call does to the firmware what the console says. -/
theorem Shows.step (h : Shows c fw) (hstep : c.step = some (said, c')) :
  ∃ fw' events, nextTrap.run logFilter fw = ⟨.ok (), fw', events⟩ ∧ transmitted events = said
    ∧ Shows c' fw'
  := by
  obtain ⟨called, handed, stores, spills, harrives⟩ := h.exists_arrives
  have harguments := harrives.calls.arguments
  rw [← Core.get_visible, ← Core.get_visible] at harguments
  obtain ⟨d, events, hdispatch, hsaid, hmachine, hserving⟩ := exists_dispatch hstep
    harrives.serving harrives.trapped.handling.memory harguments
  obtain ⟨fw', hanswer, hresumed, hserving'⟩ := exists_answerTrap harrives.trapped
    (Ask.site_lt _) harrives.ofId?_eq hdispatch hmachine hserving
  obtain ⟨hindex, hline, hstart⟩ := Console.next_of_step hstep
  refine ⟨fw', _, harrives.run_nextTrap hanswer, (harrives.transmitted_eq events).trans hsaid,
    hresumed.phase, hserving', ?_, ?_⟩
  · rw [hindex, hresumed.resumes]
  · rw [hline]
    apply poised_of_resumed harrives.calls.held hstart hresumed

/-- A console that has nothing left to read waits, and so does the firmware. -/
theorem Shows.idle (h : Shows c fw) (hstep : c.step = none) :
  ∃ fw' events, nextTrap.run logFilter fw = ⟨.error .idle, fw', events⟩
    ∧ transmitted events = [] ∧ fw'.monitor.phase = .trapped
  := by
  obtain ⟨called, handed, stores, spills, harrives⟩ := h.exists_arrives
  obtain ⟨hask, hqueue⟩ := Console.idle_of_step hstep
  have hcall := harrives.ofId?_eq
  rw [hask] at hcall
  have hline := harrives.serving.line
  rw [hqueue] at hline
  obtain ⟨fw', hanswer, hphase⟩ := exists_answerTrap_of_stop harrives.trapped hcall
    (Desk.run_getByte_idle hline _ _)
  exact ⟨fw', _, harrives.run_nextTrap hanswer, harrives.transmitted_eq [], hphase⟩

end Step

/-! ### Runs -/

section Runs

variable {c : Console} {fw fw' : Firmware} {said : List UInt8} {n : Nat}

/-- Bytes that come in are left to read. -/
theorem Shows.exists_feed (h : Shows c fw) (bytes : List UInt8) :
  ∃ fw', (feed bytes).run logFilter fw = ⟨.ok (), fw', []⟩
    ∧ Shows { c with queue := c.queue ++ bytes } fw'
  := by
  refine ⟨_, rfl, h.phase, ⟨?_, h.serving.engine, h.serving.window, h.serving.delivery,
    h.serving.counters⟩, h.resumes, h.poised⟩
  change fw.monitor.desk.line.feed bytes = _
  rw [h.serving.line]
  rfl

/-- However many calls have been answered, the firmware goes on as some console says. -/
theorem Shows.of_gives_run (h : Shows c fw) (hrun : Gives logFilter fw (run n) () fw') :
  ∃ c', Shows c' fw'
  := by
  induction n generalizing c fw with
  | zero =>
    obtain ⟨-, rfl⟩ := gives_pure.mp hrun
    use c
  | succ n ih =>
    obtain ⟨_, fw₁, hcall, hrest⟩ := gives_bind.mp hrun
    cases hstep : c.step with
    | none =>
      obtain ⟨fw₂, events, hidle, -⟩ := h.idle hstep
      rw [Gives, hidle] at hcall
      cases hcall.1
    | some next =>
      obtain ⟨fw₂, events, hnext, -, hshows⟩ := h.step hstep
      rw [Gives, hnext] at hcall
      obtain ⟨-, rfl⟩ := hcall
      apply ih hshows hrest

/-- The firmware says what the console says, and then waits. -/
theorem exists_run_idle (htalk : Console.Says c n said) (h : Shows c fw) {calls : Nat}
    (hcalls : n < calls) :
  ∃ fw' events, (run calls).run logFilter fw = ⟨.error .idle, fw', events⟩
    ∧ transmitted events = said ∧ fw'.monitor.phase = .trapped
  := by
  induction htalk generalizing fw calls with
  | waits hstep =>
    obtain ⟨calls, rfl⟩ := Nat.exists_eq_succ_of_ne_zero (Nat.ne_zero_of_lt hcalls)
    obtain ⟨fw', events, hidle, hsaid⟩ := h.idle hstep
    use fw', events, run_bind_of_error _ hidle
  | calls hstep hlater ih =>
    obtain ⟨calls, rfl⟩ := Nat.exists_eq_succ_of_ne_zero (Nat.ne_zero_of_lt hcalls)
    obtain ⟨fw₁, events, hnext, hsaid, hshows⟩ := h.step hstep
    obtain ⟨fw', later, hrun, hlater, hphase⟩ := ih hshows (Nat.lt_of_succ_lt_succ hcalls)
    refine ⟨fw', _, run_bind_of_ok hnext hrun, ?_, hphase⟩
    rw [transmitted_append, hsaid, hlater]

end Runs

end SandboxMonitor.Firmware
