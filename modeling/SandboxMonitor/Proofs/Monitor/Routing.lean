import Mathlib.Data.Nat.Bitwise
import Mathlib.Tactic.IntervalCases
import SandboxMonitor.Proofs.Monitor.MemorySafety
import SandboxMonitor.Proofs.Service.Serving

/-!
# Where a trap goes

`TrapRoute.of_eq` decides the route of a trap by comparing numbers, and
`FatalFault.ofRegisters` names the fault for which a trap that nobody answers halts the
monitor.  `Monitor.TrapStep` lists what answering a trap can come to: the monitor halts for
such a fault and has touched nothing, a hook decides, or a call is served.
`Monitor.trap_routed` reads off what each of them leaves as it was.
-/

namespace SandboxMonitor

open SandboxMonitor.Action

/-! ### Causes as numbers -/

/-- The fault of a trap that nobody answers, by the registers that describe the trap and the
number in `a7`. -/
def FatalFault.ofRegisters (mcause mepc mtval id : UInt32) : FatalFault :=
  if 2 ^ 31 ≤ mcause.toNat then .interrupt (.ofNat (mcause.toNat % 2 ^ 31)) mepc
  else
    match mcause.toNat with
    | 0 => .instructionMisaligned mepc mtval
    | 1 => .instructionFault mepc mtval
    | 2 => .illegalInstruction mepc mtval
    | 3 => .breakpoint mepc
    | 5 => .loadFault mepc mtval
    | 7 => .storeFault mepc mtval
    | 8 => .unknownCall id mepc
    | 11 => .machineCall mepc
    | _ => .unexpected mcause mepc mtval

/-- The number of a cause is what is below bit 31. -/
theorem toNat_and_low (w : UInt32) :
  (w &&& 0x7FFFFFFF).toNat = w.toNat % 2 ^ 31
  := by
  rw [UInt32.toNat_and]
  apply Nat.and_two_pow_sub_one_eq_mod w.toNat 31

theorem and_high_eq_zero_iff (w : UInt32) :
  w &&& 0x80000000 = 0 ↔ w.toNat < 2 ^ 31
  := by
  have hhigh : w.toNat &&& 2 ^ 31 = (w.toNat / 2 ^ 31 % 2) * 2 ^ 31 := by
    rw [Nat.and_two_pow, Nat.toNat_testBit]
  have hfits := w.toNat_lt
  rw [← UInt32.toNat_inj, UInt32.toNat_and, UInt32.toNat_zero]
  change w.toNat &&& 2 ^ 31 = 0 ↔ _
  rw [hhigh]
  omega

theorem TrapCause.ofWord_eq (mcause : UInt32) :
  ofWord mcause
    = if 2 ^ 31 ≤ mcause.toNat then .interrupt (.ofNat (mcause.toNat % 2 ^ 31))
      else .exception (.ofCode mcause)
  := by
  have hlow : mcause &&& 0x7FFFFFFF = .ofNat (mcause.toNat % 2 ^ 31) := by
    rw [← toNat_and_low, UInt32.ofNat_toNat]
  rw [ofWord, hlow]
  simp only [and_high_eq_zero_iff]
  split
  · rename_i hexception
    rw [if_neg (Nat.not_le.mpr hexception), Nat.mod_eq_of_lt hexception, UInt32.ofNat_toNat]
  · rename_i hinterrupt
    rw [if_pos (Nat.le_of_not_lt hinterrupt)]

/-- A trap is a call from user mode or from machine mode, or fatal. -/
theorem TrapRoute.of_eq (mcause mepc mtval id : UInt32) :
  TrapRoute.of mcause mepc mtval
    = if mcause = 8 then .userCall
      else if mcause = 11 then .machineCall
      else .fatal (.ofRegisters mcause mepc mtval id)
  := by
  have hnumber : ∀ w : UInt32, mcause = w ↔ mcause.toNat = w.toNat := fun w =>
    UInt32.toNat_inj.symm
  have hcall : (8 : UInt32).toNat = 8 := rfl
  have hmachine : (11 : UInt32).toNat = 11 := rfl
  rw [TrapRoute.of, TrapCause.ofWord_eq, FatalFault.ofRegisters]
  simp only [hnumber, hcall, hmachine]
  by_cases hinterrupt : 2 ^ 31 ≤ mcause.toNat
  · rw [if_pos hinterrupt, if_pos hinterrupt, if_neg (by omega), if_neg (by omega)]
  · rw [if_neg hinterrupt, if_neg hinterrupt, ExceptionCode.ofCode]
    generalize mcause.toNat = n
    by_cases hnamed : n < 16
    · interval_cases n <;> rfl
    · obtain ⟨k, rfl⟩ := Nat.exists_eq_add_of_le' (Nat.le_of_not_lt hnamed)
      rw [if_neg (by omega), if_neg (by omega)]
      rfl

namespace Monitor

variable {B : Type} {m : Monitor B} {filter : LogFilter} {frame : Registers}

theorem route_eq (m : Monitor B) (id : UInt32) :
  m.route
    = if m.desk.machine.mcause = 8 then .userCall
      else if m.desk.machine.mcause = 11 then .machineCall
      else .fatal (.ofRegisters m.desk.machine.mcause m.desk.machine.mepc m.desk.machine.mtval id)
  := by
  apply TrapRoute.of_eq

/-! ### Halting -/

/-- The fault for which the monitor halts when nobody answers the trap. -/
def fatality (m : Monitor B) (frame : Registers) : FatalFault :=
  .ofRegisters m.desk.machine.mcause m.desk.machine.mepc m.desk.machine.mtval (frame.get .a7)

/-- The monitor after a halt that nothing else has come of. -/
def closed (m : Monitor B) : Monitor B := { m.trapped with phase := .halted }

/-- A halt is logged. -/
theorem run_conclude_halt (filter : LogFilter) (s : Monitor B) (before : Phase)
    (origin : Privilege) (fault : FatalFault) :
  ∃ report, (conclude before origin (.halt fault)).run filter s
      = ⟨.ok (), { s with phase := .halted }, report⟩
    ∧ ∀ e ∈ report, e.IsRecord
  := by
  refine ⟨_, rfl, ?_⟩
  simp only [List.forall_mem_append]
  use forall_isRecord_log, forall_isRecord_log
  apply List.forall_mem_nil

/-- An answer to halt that has come of nothing but the trap closes the monitor. -/
theorem run_handleTrap_of_halt {frame' : Registers} {fault : FatalFault}
    (hphase : m.phase ≠ .halted)
    (h : (answer m.route frame).run filter m.trapped
      = ⟨.ok (.halt fault, frame'), m.trapped, []⟩) :
  ∃ report, (handleTrap frame).run filter m = ⟨.ok (.halt fault, frame'), m.closed, report⟩
    ∧ ∀ e ∈ report, e.IsRecord
  := by
  obtain ⟨report, hconclude, hreport⟩ :=
    run_conclude_halt filter m.trapped m.phase m.desk.machine.mpp fault
  use report
  constructor
  · rw [run_handleTrap_of_ne_halted filter frame hphase,
      run_bind_of_ok h (run_bind_of_ok hconclude rfl), List.append_nil, List.nil_append]
    rfl
  · apply hreport

/-! ### The steps of a trap -/

/-- What answering a trap comes to, unless the monitor has halted before. -/
inductive TrapStep (filter : LogFilter) (m : Monitor B) (frame : Registers) :
    Outcome (Monitor B) (TrapOutcome × Registers) → Prop where
  /-- Nobody answers the trap. -/
  | unanswered {report : List Event}
      (hcall : m.desk.machine.mcause = 8 → Call.ofId? (frame.get .a7) = none)
      (hhook : m.desk.machine.mcause = 11 → m.hook = none)
      (hreport : ∀ e ∈ report, e.IsRecord) :
      TrapStep filter m frame ⟨.ok (.halt (m.fatality frame), frame), m.closed, report⟩
  /-- The hook halts. -/
  | hookHalts {hook : Hook} {fault : FatalFault} {frame' : Registers} {report : List Event}
      (hcause : m.desk.machine.mcause = 11) (hhook : m.hook = some hook)
      (hanswer : hook frame = (.halt fault, frame')) (hreport : ∀ e ∈ report, e.IsRecord) :
      TrapStep filter m frame ⟨.ok (.halt fault, frame'), m.closed, report⟩
  /-- The hook resumes after the instruction that called. -/
  | hookResumes {hook : Hook} {frame' : Registers} {length : UInt32}
      (hcause : m.desk.machine.mcause = 11) (hhook : m.hook = some hook)
      (hanswer : hook frame = (.resume, frame')) :
      TrapStep filter m frame
        ⟨.ok (.resume, frame'),
          { m with desk := m.desk.withMachine { m.desk.machine with
              mepc := m.desk.machine.mepc + length, mie := false } }, []⟩
  /-- A service answers the call. -/
  | serves {call : Call} {answer : Except Rejection (Option UInt32)} {d : Desk B}
      {events all : List Event} {length : UInt32} (hcause : m.desk.machine.mcause = 8)
      (hcall : Call.ofId? (frame.get .a7) = some call)
      (hdispatch : (Desk.dispatch call (frame.get .a0) (frame.get .a1)).run filter m.trapped.desk
        = ⟨.ok answer, d, events⟩)
      (hevents : ∀ e ∈ events, e ∈ all) :
      TrapStep filter m frame
        ⟨.ok (.resume, frame.settled answer), { m with desk := d.resumed length }, all⟩
  /-- The call waits for a byte. -/
  | waits {events : List Event} (hcause : m.desk.machine.mcause = 8)
      (hcall : Call.ofId? (frame.get .a7) = some .getByte)
      (hline : m.desk.line.next? = none) :
      TrapStep filter m frame ⟨.error .idle, m.trapped, events⟩
  /-- Memory does not allow an access. -/
  | faults {why : Stop} {m' : Monitor B} {events : List Event} (hwhy : why.IsFault) :
      TrapStep filter m frame ⟨.error why, m', events⟩

/-- A halt that has come of nothing but the trap is a halt for what the registers say. -/
theorem trapStep_of_fatality (hphase : m.phase ≠ .halted)
    (hcall : m.desk.machine.mcause = 8 → Call.ofId? (frame.get .a7) = none)
    (hhook : m.desk.machine.mcause = 11 → m.hook = none)
    (h : (answer m.route frame).run filter m.trapped
      = ⟨.ok (.halt (m.fatality frame), frame), m.trapped, []⟩) :
  TrapStep filter m frame ((handleTrap frame).run filter m)
  := by
  obtain ⟨report, hrun, hreport⟩ := run_handleTrap_of_halt hphase h
  rw [hrun]
  apply TrapStep.unanswered hcall hhook hreport

theorem trapStep_of_userCall (hphase : m.phase ≠ .halted) (hcause : m.desk.machine.mcause = 8) :
  TrapStep filter m frame ((handleTrap frame).run filter m)
  := by
  have hanswer := run_answerUserCall filter m.trapped frame
  change (answer .userCall frame).run filter m.trapped = _ at hanswer
  rw [← route_eq_userCall_iff.mpr hcause] at hanswer
  have hstep := Desk.serve_step filter m.trapped.desk frame
  generalize (Desk.serve frame).run filter m.trapped.desk = outcome at hanswer hstep
  cases hstep with
  | unknown hcall =>
    apply trapStep_of_fatality hphase (fun _ => hcall)
    · rw [hcause]
      intro hother
      cases hother
    · rw [hanswer, fatality, hcause]
      rfl
  | stops hcall hdispatch hbefore =>
    rw [run_handleTrap_of_error hphase hanswer]
    rcases Desk.stops_dispatch hdispatch with hfault | ⟨rfl, hline, rfl, rfl⟩
    · apply TrapStep.faults hfault
    · apply TrapStep.waits hcause hcall hline
  | faults =>
    rw [run_handleTrap_of_error hphase hanswer]
    apply TrapStep.faults ⟨_, _, rfl⟩
  | resumes hcall hdispatch =>
    rw [run_handleTrap_of_resume hphase hanswer]
    apply TrapStep.serves hcause hcall hdispatch
    intro e he
    apply List.mem_append_left _ (List.mem_append_right _ he)

theorem trapStep_of_hook {hook : Hook} (hphase : m.phase ≠ .halted)
    (hcause : m.desk.machine.mcause = 11) (hhook : m.hook = some hook) :
  TrapStep filter m frame ((handleTrap frame).run filter m)
  := by
  have hanswer : (answer m.route frame).run filter m.trapped
      = (if (hook frame).1 = TrapOutcome.resume then
          onMachine Machine.skipInstruction >>= fun _ => pure (hook frame)
        else pure (hook frame)).run filter m.trapped := by
    have htrapped : m.trapped.hook = some hook := hhook
    rw [m.route_eq 0, hcause]
    change (answerMachineCall frame).run filter m.trapped = _
    rw [answerMachineCall, run_gets_bind _ _ _ htrapped]
  rcases hreply : hook frame with ⟨outcome, frame'⟩
  rw [hreply] at hanswer
  cases outcome with
  | halt fault =>
    rw [if_neg (by rintro ⟨⟩)] at hanswer
    obtain ⟨report, hrun, hreport⟩ := run_handleTrap_of_halt hphase hanswer
    rw [hrun]
    apply TrapStep.hookHalts hcause hhook hreply hreport
  | resume =>
    have hskip := run_onDesk (Desk.onMachine Machine.skipInstruction) filter m.trapped
    rw [Desk.run_onMachine] at hskip
    rw [if_pos rfl] at hanswer
    cases hlength : m.trapped.desk.machine.memory.instructionLength?
        m.trapped.desk.machine.mepc with
    | none =>
      rw [Machine.run_skipInstruction_of_none filter hlength] at hskip
      rw [run_handleTrap_of_error hphase (hanswer.trans (run_bind_of_error _ hskip))]
      apply TrapStep.faults ⟨_, _, rfl⟩
    | some length =>
      rw [Machine.run_skipInstruction filter hlength] at hskip
      rw [run_handleTrap_of_resume hphase (hanswer.trans (run_bind_of_ok hskip rfl))]
      apply TrapStep.hookResumes hcause hhook hreply

theorem trapStep_of_machineCall (hphase : m.phase ≠ .halted)
    (hcause : m.desk.machine.mcause = 11) :
  TrapStep filter m frame ((handleTrap frame).run filter m)
  := by
  cases hhook : m.hook with
  | some hook => apply trapStep_of_hook hphase hcause hhook
  | none =>
    have htrapped : m.trapped.hook = none := hhook
    apply trapStep_of_fatality hphase _ fun _ => hhook
    · rw [m.route_eq 0, fatality, hcause]
      change (answerMachineCall frame).run filter m.trapped = _
      rw [answerMachineCall, run_gets_bind _ _ _ htrapped]
      rfl
    · rw [hcause]
      rintro ⟨⟩

/-- Answering a trap is one of the steps above. -/
theorem trap_step (filter : LogFilter) (frame : Registers) (hphase : m.phase ≠ .halted) :
  TrapStep filter m frame ((handleTrap frame).run filter m)
  := by
  by_cases hcall : m.desk.machine.mcause = 8
  · apply trapStep_of_userCall hphase hcall
  · by_cases hmachine : m.desk.machine.mcause = 11
    · apply trapStep_of_machineCall hphase hmachine
    · apply trapStep_of_fatality hphase (absurd · hcall) (absurd · hmachine)
      rw [m.route_eq (frame.get .a7), if_neg hcall, if_neg hmachine]
      rfl

/-! ### What a trap leaves as it was -/

/-- The numbers of the services. -/
theorem exists_call_iff {n : UInt32} :
  (∃ call, Call.ofId? n = some call) ↔ n ∈ [0, 1, 2, 99]
  := by
  simp only [Call.ofId?_eq_some_iff, List.mem_cons, List.not_mem_nil, or_false]
  constructor
  · rintro ⟨call, rfl⟩
    cases call <;> decide
  · rintro (rfl | rfl | rfl | rfl)
    · use .infer
      rfl
    · use .putByte
      rfl
    · use .getByte
      rfl
    · use .readCounters
      rfl

/-- How a trap is answered, and what the answer leaves as it was. -/
structure Routed (m : Monitor B) (frame : Registers) (outcome : TrapOutcome) (frame' : Registers)
    (m' : Monitor B) (events : List Event) : Prop where
  /-- A trap resumes when it is a call of a service, or when a hook resumes it. -/
  resume_iff : outcome = .resume ↔
    (m.desk.machine.mcause = 8 ∧ frame.get .a7 ∈ [0, 1, 2, 99])
      ∨ (m.desk.machine.mcause = 11 ∧ ∃ hook, m.hook = some hook ∧ (hook frame).1 = .resume)
  /-- A service goes back to user mode and to the phase before the trap. -/
  returns : outcome = .resume → m.desk.machine.mcause = 8 →
    m'.desk.machine.mpp = .user ∧ m'.phase = m.phase
  /-- A service keeps the frame, unless it is to receive a byte. -/
  keeps : outcome = .resume → m.desk.machine.mcause = 8 → frame.get .a7 ≠ 2 → frame' = frame
  /-- The byte that is received, which is the next of the line, is all that is changed. -/
  receives : outcome = .resume → m.desk.machine.mcause = 8 → frame.get .a7 = 2 →
    ∃ byte, .received byte ∈ events ∧ m.desk.line.next? = some byte
      ∧ frame' = frame.set .a0 byte.toUInt32
  /-- A halt is a hook's, or it is for what the registers of the trap say, and then nothing has
  come of the trap but log records. -/
  halts : ∀ fault, outcome = .halt fault →
    (m.desk.machine.mcause = 11 ∧ ∃ hook, m.hook = some hook ∧ hook frame = (outcome, frame'))
      ∨ (fault = m.fatality frame ∧ frame' = frame ∧ m' = m.closed ∧ ∀ e ∈ events, e.IsRecord)

theorem routed_of_unanswered {report : List Event}
    (hcall : m.desk.machine.mcause = 8 → Call.ofId? (frame.get .a7) = none)
    (hhook : m.desk.machine.mcause = 11 → m.hook = none) (hreport : ∀ e ∈ report, e.IsRecord) :
  m.Routed frame (.halt (m.fatality frame)) frame m.closed report
  := by
  constructor
  case resume_iff =>
    constructor
    · rintro ⟨⟩
    · rintro (⟨hcause, hid⟩ | ⟨hcause, hook, hsome, -⟩)
      · obtain ⟨call, hsome⟩ := exists_call_iff.mpr hid
        rw [hcall hcause] at hsome
        cases hsome
      · rw [hhook hcause] at hsome
        cases hsome
  case halts =>
    rintro fault ⟨⟩
    right
    exact ⟨rfl, rfl, rfl, hreport⟩
  all_goals rintro ⟨⟩

theorem routed_of_hook {hook : Hook} {outcome : TrapOutcome} {frame' : Registers}
    (hcause : m.desk.machine.mcause = 11) (hhook : m.hook = some hook)
    (hanswer : hook frame = (outcome, frame')) (m' : Monitor B) (events : List Event) :
  m.Routed frame outcome frame' m' events
  := by
  have hother : m.desk.machine.mcause ≠ 8 := by
    rw [hcause]
    decide
  constructor
  case resume_iff =>
    constructor
    · intro hresume
      right
      use hcause, hook, hhook
      rw [hanswer, hresume]
    · rintro (⟨hcall, -⟩ | ⟨-, hook', hsome, hresume⟩)
      · cases hother hcall
      · rw [hhook] at hsome
        cases hsome
        rw [hanswer] at hresume
        apply hresume
  case halts =>
    intro _ _
    left
    use hcause, hook
  all_goals
    intro _ hcall
    cases hother hcall

theorem routed_of_serves {call : Call} {answer : Except Rejection (Option UInt32)} {d : Desk B}
    {events all : List Event} (length : UInt32) (hcause : m.desk.machine.mcause = 8)
    (hcall : Call.ofId? (frame.get .a7) = some call)
    (hdispatch : (Desk.dispatch call (frame.get .a0) (frame.get .a1)).run filter m.trapped.desk
      = ⟨.ok answer, d, events⟩)
    (hevents : ∀ e ∈ events, e ∈ all) :
  m.Routed frame .resume (frame.settled answer) { m with desk := d.resumed length } all
  := by
  have hid := Call.ofId?_eq_some_iff.mp hcall
  have hanswer := Desk.answer_of_dispatch hdispatch
  constructor
  case resume_iff =>
    simp only [true_iff]
    left
    use hcause, exists_call_iff.mp ⟨call, hcall⟩
  case returns =>
    intro _ _
    exact ⟨rfl, rfl⟩
  case keeps =>
    intro _ _ hother
    rcases hanswer with ⟨rfl, -⟩ | ⟨-, hkept⟩
    · cases hother hid
    · apply hkept
  case receives =>
    intro _ _ hbyte
    rcases hanswer with ⟨-, byte, hnext, rfl, rfl⟩ | ⟨hother, -⟩
    · use byte, hevents _ (List.mem_singleton.mpr rfl), hnext
      rfl
    · rw [hbyte] at hcall
      cases hcall
      cases hother rfl
  case halts => rintro _ ⟨⟩

/-- A trap that a monitor takes without a fault of memory is answered, unless it is a call for
a byte on a line that has none and waits for one.  Interrupts are masked and the protection
registers kept. -/
theorem trap_routed {result : Except Stop (TrapOutcome × Registers)} {m' : Monitor B}
    {events : List Event} (hphase : m.phase ≠ .halted)
    (h : (handleTrap frame).run filter m = ⟨result, m', events⟩)
    (hallowed : ∀ addr length, result ≠ .error (.memoryFault addr length)) :
  m'.desk.machine.mie = false
    ∧ m'.desk.machine.bank = m.desk.machine.bank
    ∧ ((∃ outcome frame', result = .ok (outcome, frame')
        ∧ m.Routed frame outcome frame' m' events)
      ∨ (result = .error .idle ∧ m.desk.machine.mcause = 8 ∧ frame.get .a7 = 2
        ∧ m.desk.line.queue = [] ∧ m.desk.line.waits = true))
  := by
  have hstep := trap_step filter frame hphase
  rw [h] at hstep
  cases hstep with
  | unanswered hcall hhook hreport =>
    use rfl, rfl, .inl ⟨_, _, rfl, routed_of_unanswered hcall hhook hreport⟩
  | hookHalts hcause hhook hanswer =>
    use rfl, rfl, .inl ⟨_, _, rfl, routed_of_hook hcause hhook hanswer _ _⟩
  | hookResumes hcause hhook hanswer =>
    use rfl, rfl, .inl ⟨_, _, rfl, routed_of_hook hcause hhook hanswer _ _⟩
  | @serves _ _ _ _ _ length hcause hcall hdispatch hevents =>
    have hrouted := routed_of_serves length hcause hcall hdispatch hevents
    obtain ⟨line, engine, counters, memory, rfl⟩ := Desk.spares_of_gives_dispatch
      ⟨congrArg Outcome.result hdispatch, congrArg Outcome.state hdispatch⟩
    use rfl, rfl, .inl ⟨_, _, rfl, hrouted⟩
  | waits hcause hcall hline =>
    use rfl, rfl, .inr ⟨rfl, hcause, Call.ofId?_eq_some_iff.mp hcall, ?_⟩
    apply SerialLine.next?_eq_none_iff.mp hline
  | faults hwhy =>
    obtain ⟨addr, length, rfl⟩ := hwhy
    cases hallowed addr length rfl

/-- A call for a byte is answered with the one on the line, and interrupts are masked. -/
theorem trap_routed_getByte :
  ∃ m' events, (handleTrap (Registers.zeros.set .a7 2)).run .off
      (ofConfig calling ⟨[0x41], false, true⟩ ⟨⟨[]⟩⟩ (.ofLayout .sample))
        = ⟨.ok (.resume, (Registers.zeros.set .a7 2).set .a0 0x41), m', events⟩
    ∧ m'.desk.machine.mie = false ∧ .received 0x41 ∈ events
    ∧ m'.phase = .privileged
  := by
  obtain ⟨m', events, hrun⟩ : ∃ m' events, (handleTrap (Registers.zeros.set .a7 2)).run .off
      (ofConfig calling ⟨[0x41], false, true⟩ ⟨⟨[]⟩⟩ (.ofLayout .sample))
        = ⟨.ok (.resume, (Registers.zeros.set .a7 2).set .a0 0x41), m', events⟩ := ⟨_, _, rfl⟩
  have hphase : (ofConfig calling ⟨[0x41], false, true⟩ ⟨⟨[]⟩⟩ (.ofLayout .sample)).phase
      ≠ .halted := by decide
  obtain ⟨hmasked, -, ⟨_, _, ⟨⟩, hrouted⟩ | ⟨⟨⟩, -⟩⟩ :=
    trap_routed hphase hrun (by rintro _ _ ⟨⟩)
  obtain ⟨byte, hreceived, ⟨⟩, -⟩ := hrouted.receives rfl rfl rfl
  use m', events, hrun, hmasked, hreceived, (hrouted.returns rfl rfl).2

end Monitor

end SandboxMonitor
