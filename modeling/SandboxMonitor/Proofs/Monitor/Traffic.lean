import Mathlib.Data.List.Induction
import SandboxMonitor.Proofs.Monitor.Phases
import SandboxMonitor.Proofs.Monitor.Routing
import SandboxMonitor.Proofs.Service.Traffic

/-!
# The serial line over a run

From a launch to the first fatal trap, the sandbox is served its line byte by byte.  Each step
does to the line what its call is for (`Step.Live.exchange`), so by induction over the run
nothing is lost, doubled or put in another order (`Monitor.serial_line_in_order`).
-/

namespace SandboxMonitor

open SandboxMonitor.Action

variable {B : Type}

/-- The serial line of the monitor. -/
def Monitor.line (m : Monitor B) : SerialLine := m.desk.line

/-! ### One step -/

namespace Step

/-- The call that the step is to answer. -/
def asked? (s : Step B) : Option Asked :=
  match s.operation with
  | .trap frame => if s.before.desk.machine.mcause = 8 then frame.asked? else none
  | _ => none

/-- The call that the step answers: a monitor that has halted answers none. -/
def answered? (s : Step B) : Option Asked := if s.before.phase = .halted then none else s.asked?

/-- The low byte of the argument, if the step is to answer a call that sends it. -/
def put? (s : Step B) : Option UInt8 := s.asked?.bind Asked.sends?

/-- Whether the step is to answer a call for a byte. -/
def gets (s : Step B) : Bool := s.asked?.any Asked.takes

/-- The bytes that the step has sent. -/
def sent (s : Step B) : List UInt8 := s.outcome.sent

/-- The bytes that the step has taken from the line. -/
def received (s : Step B) : List UInt8 := s.outcome.received

/-- The step is to answer a call for a byte, and there is none. -/
def Starves (s : Step B) : Prop := s.gets = true ∧ s.before.line.queue = []

/-- The step is a trap that halts the monitor. -/
def Fatal (s : Step B) : Prop :=
  ∃ fault frame, s.outcome.result = .ok (.trapped (.halt fault) frame)

/-- No bytes come in or get lost while the monitor does nothing. -/
def KeepsLine (s : Step B) : Prop :=
  ∀ machine line engine, s.operation = .meanwhile machine line engine → line = s.before.line

end Step

namespace Monitor

variable {filter : LogFilter} {m m' : Monitor B} {frame : Registers}

theorem quiet_onDesk {α : Type} {a : Action (Desk B) α} (h : a.Quiet Desk.line) :
  (onDesk a).Quiet line
  := by
  intro queue filter m hm
  apply h queue filter m.desk hm

theorem quiet_setPhase (phase : Phase) :
  (setPhase phase : Action (Monitor B) Unit).Quiet line
  := by
  intro queue
  rw [setPhase]
  apply confined_modify
  intro m hm
  apply hm

theorem quiet_conclude (before : Phase) (origin : Privilege) (outcome : TrapOutcome) :
  (conclude before origin outcome : Action (Monitor B) Unit).Quiet line
  := by
  intro queue
  cases outcome with
  | resume => apply quiet_setPhase
  | halt fault =>
    apply Confined.bind (quiet_log _ _ queue)
    intro _
    apply Confined.bind (quiet_log _ _ queue)
    intro _
    apply quiet_setPhase

/-- A hook has no part in the line. -/
theorem quiet_answerMachineCall (frame : Registers) :
  (answerMachineCall frame : Action (Monitor B) _).Quiet line
  := by
  intro queue
  rw [answerMachineCall]
  apply Confined.bind (confined_gets _)
  intro hook
  cases hook with
  | none =>
    apply Confined.bind (confined_gets _)
    intro _
    apply confined_pure
  | some hook =>
    dsimp only
    split
    · apply Confined.bind
      · apply quiet_onDesk
        apply Desk.quiet_onMachine fun _ => Machine.confined_skipInstruction
      · intro _
        apply confined_pure
    · apply confined_pure

theorem exchanges_answer (route : TrapRoute) (frame : Registers) :
  (answer route frame : Action (Monitor B) _).Exchanges line
    (if route = .userCall then frame.asked? else none)
  := by
  cases route with
  | fatal fault => apply Quiet.exchanges (fun _ => confined_pure _) rfl rfl
  | machineCall => apply (quiet_answerMachineCall frame).exchanges rfl rfl
  | userCall =>
    rw [if_pos rfl, answer, answerUserCall]
    apply Exchanges.bind
    · intro filter m
      obtain ⟨hsent, hreceived, hafter⟩ := Desk.exchanges_serve frame filter m.desk
      exact ⟨hsent, hreceived, hafter⟩
    · intro served queue
      cases served with
      | error fault => apply confined_pure
      | ok frame => apply confined_pure

/-- A trap does to the line what the call is for that it asks for, unless the monitor has
halted. -/
theorem exchange_handleTrap (filter : LogFilter) (frame : Registers) :
  ((handleTrap frame).run filter m).Exchange line m.line
    (if m.phase = .halted then none
      else if m.desk.machine.mcause = 8 then frame.asked? else none)
  := by
  split
  · rename_i hhalted
    rw [run_handleTrap_of_halted filter frame hhalted]
    exact ⟨rfl, rfl, rfl⟩
  · rename_i hphase
    rw [run_handleTrap_of_ne_halted filter frame hphase]
    apply Exchanges.after
    · have hanswer := exchanges_answer m.route frame filter m.trapped
      simp only [route_eq_userCall_iff] at hanswer
      apply hanswer
    · intro reply queue
      apply Confined.bind (quiet_conclude _ _ _ queue)
      intro _
      apply confined_pure

end Monitor

namespace Step

/-- A step that is to answer a call for a byte is such a trap. -/
theorem exists_of_gets {s : Step B} (h : s.gets = true) :
  ∃ frame, s.operation = .trap frame ∧ s.before.desk.machine.mcause = 8
    ∧ Call.ofId? (frame.get .a7) = some .getByte
  := by
  obtain ⟨before, operation, outcome⟩ := s
  rw [gets, Option.any_eq_true] at h
  obtain ⟨asked, hasked, htakes⟩ := h
  cases operation with
  | trap frame =>
    rw [asked?] at hasked
    dsimp only at hasked
    split at hasked
    · rename_i hcause
      obtain ⟨call, hcall, rfl⟩ := Option.map_eq_some_iff.mp hasked
      obtain rfl : call = .getByte := of_decide_eq_true htakes
      use frame, rfl, hcause, hcall
    · cases hasked
  | _ => cases hasked

variable [ProtectionBank B] {filter : LogFilter} {s : Step B}

/-- A step does to the line what the call is for that it answers. -/
theorem exchange (hlate : s.before.phase ≠ .privileged) (hline : s.KeepsLine)
    (houtcome : s.outcome = s.operation.perform.run filter s.before) :
  s.outcome.Exchange Monitor.line s.before.line s.answered?
  := by
  have hrefused := Monitor.refused_of_ne_privileged hlate houtcome
  cases hoperation : s.operation with
  | arm =>
    rw [answered?, asked?, hoperation, hrefused.arm hoperation, ite_self]
    exact ⟨rfl, rfl, rfl⟩
  | prepareLaunch request =>
    rw [answered?, asked?, hoperation, hrefused.launch request hoperation, ite_self]
    exact ⟨rfl, rfl, rfl⟩
  | trap frame =>
    rw [answered?, asked?, hoperation, houtcome, hoperation]
    apply Exchanges.after (Monitor.exchange_handleTrap filter frame)
    intro _ _
    apply confined_pure
  | meanwhile machine line engine =>
    rw [answered?, asked?, hoperation, houtcome, hoperation, ite_self]
    exact ⟨rfl, rfl, hline machine line engine hoperation⟩

/-- A fatal step is a trap that answers to halt. -/
theorem exists_of_fatal (h : s.Fatal)
    (houtcome : s.outcome = s.operation.perform.run filter s.before) :
  ∃ frame fault frame', s.operation = .trap frame
    ∧ Gives filter s.before (Monitor.handleTrap frame) (.halt fault, frame') s.outcome.state
  := by
  obtain ⟨fault, frame', hresult⟩ := h
  have hgives : Gives filter s.before s.operation.perform (.trapped (.halt fault) frame')
      s.outcome.state := by
    rw [Gives, ← houtcome]
    exact ⟨hresult, rfl⟩
  generalize s.operation = operation at hgives
  cases Operation.answers_of_gives hgives with
  | @trap frame _ _ htrap => exact ⟨frame, fault, frame', rfl, htrap⟩

theorem halted_of_fatal (h : s.Fatal)
    (houtcome : s.outcome = s.operation.perform.run filter s.before) :
  s.outcome.state.phase = .halted
  := by
  obtain ⟨frame, fault, frame', -, htrap⟩ := exists_of_fatal h houtcome
  rcases Monitor.phase_of_gives_handleTrap htrap with ⟨⟨⟩, -⟩ | ⟨-, hhalted⟩
  apply hhalted

/-- What halts the monitor is no call of a service. -/
theorem asked?_eq_none_of_fatal (h : s.Fatal) (hphase : s.before.phase ≠ .halted)
    (houtcome : s.outcome = s.operation.perform.run filter s.before) :
  s.asked? = none
  := by
  obtain ⟨frame, fault, frame', hoperation, hresult, -⟩ := exists_of_fatal h houtcome
  have hstep := Monitor.trap_step filter frame hphase
  rw [asked?, hoperation]
  dsimp only
  generalize (Monitor.handleTrap frame).run filter s.before = outcome at hstep hresult
  cases hstep with
  | unanswered hcall =>
    split
    · rename_i hcause
      rw [Registers.asked?, hcall hcause, Option.map_none]
    · rfl
  | hookHalts hcause => rw [hcause, if_neg (by decide)]
  | _ => cases hresult

/-- A step in the sandbox that returns leaves the monitor there, unless it is fatal. -/
theorem sandboxed_of_not_fatal (hphase : s.before.phase = .sandboxed) (hfatal : ¬ s.Fatal)
    (houtcome : s.outcome = s.operation.perform.run filter s.before) {answer : Answer}
    (hreturns : s.outcome.result = .ok answer) :
  s.outcome.state.phase = .sandboxed
  := by
  have hgives : Gives filter s.before s.operation.perform answer s.outcome.state := by
    rw [Gives, ← houtcome]
    exact ⟨hreturns, rfl⟩
  cases Monitor.phaseStep_of_gives hgives with
  | keeps hkept => rw [hkept, hphase]
  | launches hprivileged =>
    rw [hphase] at hprivileged
    cases hprivileged
  | halts => apply absurd ⟨_, _, hreturns⟩ hfatal

/-- A step in the sandbox does to the line what the call is for that it is to answer. -/
theorem exchange_of_sandboxed (hphase : s.before.phase = .sandboxed) (hline : s.KeepsLine)
    (houtcome : s.outcome = s.operation.perform.run filter s.before) :
  s.outcome.Exchange Monitor.line s.before.line s.asked?
  := by
  have hexchange := exchange (by rw [hphase]; decide) hline houtcome
  rw [answered?, if_neg (by rw [hphase]; decide)] at hexchange
  apply hexchange

/-- A step that finds the monitor halted leaves the line alone. -/
theorem exchange_of_halted (hphase : s.before.phase = .halted) (hline : s.KeepsLine)
    (houtcome : s.outcome = s.operation.perform.run filter s.before) :
  s.outcome.Exchange Monitor.line s.before.line none
  := by
  have hexchange := exchange (by rw [hphase]; decide) hline houtcome
  rw [answered?, if_pos hphase] at hexchange
  apply hexchange

/-- A step in the sandbox which does not starve takes what it is to take, and the line loses
nothing. -/
theorem account (hphase : s.before.phase = .sandboxed) (hloop : s.before.line.loopback = true)
    (hline : s.KeepsLine) (houtcome : s.outcome = s.operation.perform.run filter s.before)
    (hstarves : ¬ s.Starves) :
  s.received ++ s.outcome.state.line.queue = s.before.line.queue ++ s.sent
    ∧ s.received.length = s.gets.toNat
  := by
  obtain ⟨hsent, hreceived, hafter⟩ := exchange_of_sandboxed hphase hline houtcome
  have hqueue : s.asked?.any Asked.takes = true → s.before.line.queue ≠ [] := fun hgets hempty =>
    hstarves ⟨hgets, hempty⟩
  rw [received, sent, hsent, hreceived, hafter]
  use SerialLine.taken_append_queue hloop hqueue, SerialLine.length_taken hqueue

/-- A call for a byte answers with the one on the line, if its instruction can be fetched. -/
theorem result_of_getByte {frame : Registers} {byte : UInt8} {length : UInt32}
    (hoperation : s.operation = .trap frame) (hcause : s.before.desk.machine.mcause = 8)
    (hcall : Call.ofId? (frame.get .a7) = some .getByte) (hphase : s.before.phase ≠ .halted)
    (hnext : s.before.line.next? = some byte)
    (hlength : s.before.desk.machine.memory.instructionLength? s.before.desk.machine.mepc
      = some length)
    (houtcome : s.outcome = s.operation.perform.run filter s.before) :
  s.outcome.result = .ok (.trapped .resume (frame.set .a0 byte.toUInt32))
  := by
  have hserve : ((Desk.serve frame).run filter s.before.trapped.desk).result
      = .ok (.ok (frame.set .a0 byte.toUInt32)) :=
    Desk.result_serve_getByte hcall hnext hlength
  have hanswer := Monitor.run_answerUserCall filter s.before.trapped frame
  change (Monitor.answer .userCall frame).run filter s.before.trapped = _ at hanswer
  rw [← Monitor.route_eq_userCall_iff.mpr hcause] at hanswer
  rcases hrun : (Desk.serve frame).run filter s.before.trapped.desk with ⟨result, d, events⟩
  rw [hrun] at hserve hanswer
  change result = _ at hserve
  subst hserve
  rw [houtcome, hoperation, Operation.perform, run_bind,
    Monitor.run_handleTrap_of_resume hphase hanswer]
  rfl

end Step

namespace Monitor

variable [ProtectionBank B] {filter : LogFilter} {m : Monitor B}
  {operations : List (Operation B)} {before after : List (Step B)} {s : Step B}

/-! ### A whole run -/

/-- How the line stands after some steps that have started from a queue. -/
structure Accounted (queue : List UInt8) (steps : List (Step B)) (m : Monitor B) : Prop where
  phase : m.phase = .sandboxed
  loopback : m.line.loopback = true
  sent : steps.flatMap Step.sent = steps.filterMap Step.put?
  taken : (∀ t ∈ steps, ¬ t.Starves) →
    steps.flatMap Step.received ++ m.line.queue = queue ++ steps.flatMap Step.sent
      ∧ (steps.flatMap Step.received).length = steps.countP Step.gets

/-- One more step sends what it is to send. -/
theorem Accounted.sent_append {queue : List UInt8} (h : Accounted queue before s.before)
    (hline : s.KeepsLine) (houtcome : s.outcome = s.operation.perform.run filter s.before) :
  (before ++ [s]).flatMap Step.sent = (before ++ [s]).filterMap Step.put?
  := by
  have hlast : s.sent = s.put?.toList :=
    (Step.exchange_of_sandboxed h.phase hline houtcome).sent
  rw [List.flatMap_append, List.filterMap_append, h.sent, List.flatMap_singleton, hlast,
    List.filterMap_cons]
  cases s.put? <;> rfl

/-- One more step that returns and is not fatal keeps the account. -/
theorem Accounted.append {queue : List UInt8} (h : Accounted queue before s.before)
    (hline : s.KeepsLine) (houtcome : s.outcome = s.operation.perform.run filter s.before)
    (hfatal : ¬ s.Fatal) {answer : Answer} (hreturns : s.outcome.result = .ok answer) :
  Accounted queue (before ++ [s]) s.outcome.state
  := by
  constructor
  · apply Step.sandboxed_of_not_fatal h.phase hfatal houtcome hreturns
  · rw [(Step.exchange_of_sandboxed h.phase hline houtcome).after, SerialLine.loopback_after,
      h.loopback]
  · apply h.sent_append hline houtcome
  · intro hstarves
    obtain ⟨hearlier, hlast⟩ := List.forall_mem_append.mp hstarves
    obtain ⟨hqueue, hcount⟩ := h.taken hearlier
    obtain ⟨hqueue', hcount'⟩ := Step.account h.phase h.loopback hline houtcome
      (hlast s (List.mem_singleton.mpr rfl))
    rw [List.flatMap_append, List.flatMap_append, List.flatMap_singleton, List.flatMap_singleton,
      List.append_assoc, hqueue', ← List.append_assoc, hqueue, List.append_assoc]
    use rfl
    rw [List.length_append, hcount, hcount', List.countP_append, List.countP_singleton]
    cases s.gets <;> rfl

/-- A call for a byte that does not find the line empty takes the next byte, and answers it. -/
theorem Accounted.answers {queue : List UInt8} (h : Accounted queue before s.before)
    (hline : s.KeepsLine) (houtcome : s.outcome = s.operation.perform.run filter s.before)
    (hstarves : ∀ t ∈ before ++ [s], ¬ t.Starves) (hgets : s.gets = true) :
  ∃ frame byte, s.operation = .trap frame
    ∧ (queue ++ before.flatMap Step.sent)[before.countP Step.gets]? = some byte
    ∧ s.received = [byte]
    ∧ (s.before.desk.machine.memory.instructionLength? s.before.desk.machine.mepc ≠ none →
      s.outcome.result = .ok (.trapped .resume (frame.set .a0 byte.toUInt32)))
  := by
  obtain ⟨hearlier, hlast⟩ := List.forall_mem_append.mp hstarves
  obtain ⟨hqueue, hcount⟩ := h.taken hearlier
  obtain ⟨frame, hoperation, hcause, hcall⟩ := Step.exists_of_gets hgets
  have hwaits : s.before.line.queue ≠ [] := fun hempty =>
    hlast s (List.mem_singleton.mpr rfl) ⟨hgets, hempty⟩
  obtain ⟨byte, later, hfirst⟩ := List.exists_cons_of_ne_nil hwaits
  have hnext : s.before.line.next? = some byte := by
    rw [SerialLine.next?_eq_head? hwaits, hfirst, List.head?_cons]
  have htakes : s.asked?.any Asked.takes = true := hgets
  use frame, byte, hoperation
  and_intros
  · rw [← hqueue, List.getElem?_append_right hcount.le, hcount, Nat.sub_self, hfirst]
    rfl
  · rw [Step.received, (Step.exchange_of_sandboxed h.phase hline houtcome).received,
      SerialLine.taken, if_pos htakes, hnext]
    rfl
  · intro hfetched
    obtain ⟨length, hlength⟩ := Option.ne_none_iff_exists'.mp hfetched
    apply Step.result_of_getByte hoperation hcause hcall _ hnext hlength houtcome
    rw [h.phase]
    decide

/-- A run starts from the monitor that it is a run of. -/
theorem before_of_trace_eq_cons (h : m.trace filter operations = s :: after) :
  s.before = m
  := by
  cases operations with
  | nil => cases h
  | cons operation rest =>
    rw [trace, List.cons.injEq] at h
    rw [← h.1]

/-- The account is kept over a run without a fatal step. -/
theorem accounted_of_trace_eq (hphase : m.phase = .sandboxed) (hloop : m.line.loopback = true)
    (h : m.trace filter operations = before ++ s :: after)
    (hline : ∀ t ∈ before, t.KeepsLine) (hfatal : ∀ t ∈ before, ¬ t.Fatal) :
  Accounted m.line.queue before s.before
  := by
  induction before using List.reverseRecOn generalizing s after with
  | nil =>
    rw [before_of_trace_eq_cons h]
    exact ⟨hphase, hloop, rfl, fun _ => ⟨(List.append_nil _).symm, rfl⟩⟩
  | append_singleton before t ih =>
    rw [List.append_assoc, List.singleton_append] at h
    obtain ⟨hline, hlast⟩ := List.forall_mem_append.mp hline
    obtain ⟨hfatal, hlast'⟩ := List.forall_mem_append.mp hfatal
    have hmem : t ∈ [t] := List.mem_singleton.mpr rfl
    obtain ⟨houtcome, rest, hrest⟩ := step_of_trace_eq h
    -- The step before has returned, since another one comes after it.
    cases hreturns : t.outcome.result with
    | error why =>
      rw [hreturns] at hrest
      cases hrest
    | ok answer =>
      rw [hreturns] at hrest
      rw [before_of_trace_eq_cons hrest.symm]
      apply (ih h hline hfatal).append (hlast t hmem) houtcome (hlast' t hmem) hreturns

/-- From a fatal step on the line is left alone. -/
theorem line_kept_of_fatal (hphase : s.before.phase = .sandboxed)
    (h : m.trace filter operations = before ++ s :: after)
    (hline : ∀ t ∈ s :: after, t.KeepsLine) (hfatal : s.Fatal) :
  ∀ t ∈ s :: after, t.sent = [] ∧ t.received = [] ∧ t.outcome.state.line = t.before.line
  := by
  intro t ht
  obtain ⟨houtcome, -⟩ := step_of_trace_eq h
  have hkeeps := hline t ht
  rcases List.mem_cons.mp ht with rfl | hlater
  · have hexchange := Step.exchange_of_sandboxed hphase hkeeps houtcome
    rw [Step.asked?_eq_none_of_fatal hfatal (by rw [hphase]; decide) houtcome] at hexchange
    exact ⟨hexchange.sent, hexchange.received, hexchange.after⟩
  · have hhalted := kept_halted.before_of_mem_after h (Step.halted_of_fatal hfatal houtcome) hlater
    obtain ⟨between, last, rfl⟩ := List.append_of_mem hlater
    rw [← List.cons_append, ← List.append_assoc] at h
    have hexchange := Step.exchange_of_halted hhalted hkeeps (step_of_trace_eq h).1
    exact ⟨hexchange.sent, hexchange.received, hexchange.after⟩

/-- From a launch on, a line that is looped back is served in order as long as no trap is fatal.
What has been sent are the low bytes of the arguments of the calls to send, one after another.
As long as no call for a byte has found the line empty, such a call takes the next of the bytes
that waited at first and that have been sent since, and answers it if the instruction that called
can be fetched.  A fatal trap moves no byte, and neither does anything after it. -/
theorem serial_line_in_order (hphase : m.phase = .sandboxed) (hloop : m.line.loopback = true)
    (h : m.trace filter operations = before ++ s :: after)
    (hline : ∀ t ∈ m.trace filter operations, t.KeepsLine) (hfatal : ∀ t ∈ before, ¬ t.Fatal) :
  (before ++ [s]).flatMap Step.sent = (before ++ [s]).filterMap Step.put?
    ∧ ((∀ t ∈ before ++ [s], ¬ t.Starves) → s.gets = true →
      ∃ frame byte, s.operation = .trap frame
        ∧ (m.line.queue ++ before.flatMap Step.sent)[before.countP Step.gets]? = some byte
        ∧ s.received = [byte]
        ∧ (s.before.desk.machine.memory.instructionLength? s.before.desk.machine.mepc ≠ none →
          s.outcome.result = .ok (.trapped .resume (frame.set .a0 byte.toUInt32))))
    ∧ (s.Fatal → ∀ t ∈ s :: after,
      t.sent = [] ∧ t.received = [] ∧ t.outcome.state.line = t.before.line)
  := by
  rw [h] at hline
  obtain ⟨hbefore, hrest⟩ := List.forall_mem_append.mp hline
  have hthis := hrest s List.mem_cons_self
  obtain ⟨houtcome, -⟩ := step_of_trace_eq h
  have haccount := accounted_of_trace_eq hphase hloop h hbefore hfatal
  use haccount.sent_append hthis houtcome, haccount.answers hthis houtcome,
    line_kept_of_fatal haccount.phase h hrest

/-- A run of nothing but traps keeps the line. -/
theorem keepsLine_of_traps (filter : LogFilter) (m : Monitor B) (frames : List Registers) :
  ∀ t ∈ m.trace filter (frames.map .trap), t.KeepsLine
  := by
  induction frames generalizing m with
  | nil => apply List.forall_mem_nil
  | cons frame rest ih =>
    rw [List.map_cons, trace, List.forall_mem_cons]
    constructor
    · rintro machine line engine ⟨⟩
    · split
      · apply ih
      · apply List.forall_mem_nil

/-- A monitor that has launched the sandbox, with a byte waiting on a line that is looped back. -/
def launchedEcho : Monitor RegisterBank :=
  ((prepareLaunch ⟨0x80000000, 0x80100100, 0, 0⟩).run .off
    (ofConfig calling ⟨[0x41], true, false⟩ ⟨⟨[]⟩⟩ (.ofLayout .sample))).state

/-- A byte is sent and two are asked for; then come a call that does not exist and one that is too
late. -/
def echoFrames : List Registers :=
  [(Registers.zeros.set .a7 1).set .a0 0x1142, Registers.zeros.set .a7 2,
    Registers.zeros.set .a7 2, Registers.zeros.set .a7 77, Registers.zeros.set .a7 1]

/-- The byte that has been sent comes after the one that was waiting, and after the call that does
not exist nothing is sent. -/
theorem serial_line_in_order_echo :
  ∃ first second third fatal last,
    launchedEcho.trace .off (echoFrames.map .trap) = [first, second, third, fatal, last]
    ∧ [first, second, third].flatMap Step.sent = [0x42]
    ∧ third.received = [0x42]
    ∧ third.outcome.result = .ok (.trapped .resume ((Registers.zeros.set .a7 2).set .a0 0x42))
    ∧ last.sent = []
  := by
  obtain ⟨first, second, third, fatal, last, htrace, hputs, hnext, hfirst, hsecond, hthird, hdies,
      hresumes, hresumes', hresumes'', hfetched, hgets, hframe⟩ : ∃ first second third fatal last,
      launchedEcho.trace .off (echoFrames.map .trap) = [first, second, third, fatal, last]
      ∧ [first, second, third].filterMap Step.put? = [0x42]
      ∧ (launchedEcho.line.queue ++ [first, second].flatMap Step.sent)[
        [first, second].countP Step.gets]? = some 0x42
      ∧ first.gets = false ∧ second.before.line.queue = [0x41, 0x42]
      ∧ third.before.line.queue = [0x42] ∧ fatal.Fatal
      ∧ (∃ frame, first.outcome.result = .ok (.trapped .resume frame))
      ∧ (∃ frame, second.outcome.result = .ok (.trapped .resume frame))
      ∧ (∃ frame, third.outcome.result = .ok (.trapped .resume frame))
      ∧ third.before.desk.machine.memory.instructionLength? third.before.desk.machine.mepc = some 2
      ∧ third.gets = true ∧ third.operation = .trap (Registers.zeros.set .a7 2) :=
    ⟨_, _, _, _, _, rfl, rfl, rfl, rfl, rfl, rfl, ⟨_, _, rfl⟩, ⟨_, rfl⟩, ⟨_, rfl⟩, ⟨_, rfl⟩, rfl,
      rfl, rfl⟩
  have hline := keepsLine_of_traps .off launchedEcho echoFrames
  have hlive : ∀ t ∈ [first, second, third], ¬ t.Fatal := by
    obtain ⟨_, hresult⟩ := hresumes
    obtain ⟨_, hresult'⟩ := hresumes'
    obtain ⟨_, hresult''⟩ := hresumes''
    simp [Step.Fatal, hresult, hresult', hresult'']
  have hserved : ∀ t ∈ [first, second] ++ [third], ¬ t.Starves := by
    simp [Step.Starves, hfirst, hsecond, hthird]
  have hserves : launchedEcho.trace .off (echoFrames.map .trap)
      = [first, second] ++ third :: [fatal, last] := htrace
  have hhalts : launchedEcho.trace .off (echoFrames.map .trap)
      = [first, second, third] ++ fatal :: [last] := htrace
  obtain ⟨hsent, htaken, -⟩ := serial_line_in_order rfl rfl hserves hline fun t ht =>
    hlive t (List.mem_append_left [third] ht)
  obtain ⟨-, -, hsilent⟩ := serial_line_in_order rfl rfl hhalts hline hlive
  obtain ⟨frame, byte, hoperation, hbyte, hreceived, hanswer⟩ := htaken hserved hgets
  rw [hnext] at hbyte
  cases hbyte
  rw [hframe] at hoperation
  cases hoperation
  use first, second, third, fatal, last, htrace, hsent.trans hputs, hreceived
  constructor
  · apply hanswer
    rw [hfetched]
    rintro ⟨⟩
  · apply (hsilent hdies last _).1
    apply List.mem_cons_of_mem _ (List.mem_singleton.mpr rfl)

end Monitor

end SandboxMonitor
