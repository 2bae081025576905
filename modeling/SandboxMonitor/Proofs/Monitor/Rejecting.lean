import SandboxMonitor.Proofs.Monitor.MemorySafety
import SandboxMonitor.Proofs.Service.Rejecting

/-!
# Traps for calls that are rejected

A call from user mode that is rejected changes nothing but where the hart resumes, and what the
counters answer next if the call is for them (`Monitor.TurnsAway`).  What made the service reject
it has not changed either, so it is rejected again, for the same reason, however often the same
frame is handed in (`Monitor.rejected_call_resumes`).
-/

namespace SandboxMonitor

open SandboxMonitor.Action

variable {B : Type}

namespace Monitor

variable {filter : LogFilter} {m : Monitor B} {frame : Registers} {call : Call} {r : Rejection}
  {size : UInt32}

/-- The monitor has taken a call from user mode that the service rejects. -/
structure Refuses (m : Monitor B) (frame : Registers) (call : Call) (r : Rejection) : Prop where
  active : m.phase ≠ .halted
  cause : m.desk.machine.mcause = 8
  asked : Call.ofId? (frame.get .a7) = some call
  rejects : m.desk.window.Rejects m.desk.delivery (frame.get .a0) (frame.get .a1) call r

/-- How a trap is answered that is a call to be rejected, made by an instruction of some size. -/
structure TurnsAway (filter : LogFilter) (m : Monitor B) (frame : Registers) (call : Call)
    (r : Rejection) (size : UInt32) (o : Outcome (Monitor B) (TrapOutcome × Registers)) :
    Prop where
  /-- The service gives the reason, -/
  rejects : ((Desk.dispatch call (frame.get .a0) (frame.get .a1)).run filter
    m.trapped.desk).result = .ok (.error r)
  /-- the hart resumes with the frame that was handed in, -/
  resumes : o.result = .ok (.resume, frame)
  /-- after the instruction, in user mode, and with all else as it was, -/
  leaves : ∃ counters,
    o.state = { m with
      desk := { m.desk with
        machine := { m.desk.machine with
          counters, mepc := m.desk.machine.mepc + size, mpp := .user, mie := false } } }
    ∧ (call ≠ .readCounters → counters = m.desk.machine.counters)
  /-- and nothing is seen but log records, and readings of counters if the call is for them. -/
  shows : Desk.ShowsRejection filter call r o.events

/-- A call that is to be rejected is turned away. -/
theorem Refuses.turnsAway (h : m.Refuses frame call r) (filter : LogFilter)
    (hsize : m.desk.machine.memory.instructionLength? m.desk.machine.mepc = some size) :
  TurnsAway filter m frame call r size ((handleTrap frame).run filter m)
  := by
  obtain ⟨counters, events, hserve, hcounters, hshows⟩ :=
    Desk.run_serve_of_rejects (d := m.trapped.desk) filter h.asked h.rejects hsize
  have hanswer : (answer m.route frame).run filter m.trapped
      = ⟨.ok (.resume, frame),
          { m.trapped with desk := (m.trapped.desk.withCounters counters).resumed size },
          events⟩ := by
    rw [route_eq_userCall_iff.mpr h.cause, answer, run_answerUserCall, hserve]
  rw [run_handleTrap_of_resume h.active hanswer]
  exact ⟨(Desk.result_dispatch_eq_error_iff filter).mpr h.rejects, rfl, ⟨counters, rfl, hcounters⟩,
    hshows⟩

/-- A call that was turned away would be so again. -/
theorem TurnsAway.refuses {o : Outcome (Monitor B) (TrapOutcome × Registers)}
    (h : TurnsAway filter m frame call r size o) (hrefuses : m.Refuses frame call r) :
  o.state.Refuses frame call r
  := by
  obtain ⟨counters, hstate, -⟩ := h.leaves
  rw [hstate]
  exact ⟨hrefuses.active, hrefuses.cause, hrefuses.asked, hrefuses.rejects⟩

/-- Where no instruction can be fetched, the trap is not answered. -/
theorem Refuses.run_handleTrap_of_none (h : m.Refuses frame call r) (filter : LogFilter)
    (hsize : m.desk.machine.memory.instructionLength? m.desk.machine.mepc = none) :
  ∃ why m' events, (handleTrap frame).run filter m = ⟨.error why, m', events⟩
  := by
  obtain ⟨d, events, hserve⟩ :=
    Desk.run_serve_of_rejects_of_none (d := m.trapped.desk) filter h.asked h.rejects hsize
  have hanswer : (answer m.route frame).run filter m.trapped
      = ⟨.error (.memoryFault m.desk.machine.mepc 2), { m.trapped with desk := d }, events⟩ := by
    rw [route_eq_userCall_iff.mpr h.cause, answer, run_answerUserCall, hserve]
    rfl
  exact ⟨_, _, _, run_handleTrap_of_error h.active hanswer⟩

variable [ProtectionBank B]

/-- Handed in again and again, a frame is refused each time. -/
theorem Refuses.before_of_mem_trace (h : m.Refuses frame call r) {n : Nat} {s : Step B}
    (hs : s ∈ m.trace filter (List.replicate n (.trap frame))) :
  s.before.Refuses frame call r
  := by
  induction n generalizing m with
  | zero => cases hs
  | succ n ih =>
    rw [List.replicate_succ, trace] at hs
    rcases List.mem_cons.mp hs with rfl | hs
    · apply h
    · cases hsize : m.desk.machine.memory.instructionLength? m.desk.machine.mepc with
      | none =>
        obtain ⟨why, m', events, hrun⟩ := h.run_handleTrap_of_none filter hsize
        have hstops : (Operation.perform (.trap frame)).run filter m = ⟨.error why, m', events⟩ :=
          run_bind_of_error _ hrun
        rw [hstops] at hs
        cases hs
      | some size =>
        have haway := h.turnsAway filter hsize
        rcases hrun : (handleTrap frame).run filter m with ⟨result, m', events⟩
        rw [hrun] at haway
        obtain rfl := haway.resumes
        have hgoes : (Operation.perform (.trap frame)).run filter m
            = ⟨.ok (.trapped .resume frame), m', events ++ []⟩ := run_bind_of_ok hrun rfl
        rw [hgoes] at hs
        apply ih (haway.refuses h) hs

/-- A call from user mode that is rejected changes nothing but that the hart resumes after its
instruction; and however often the same frame is handed in after that, it is rejected for the
same reason and with as little effect. -/
theorem rejected_call_resumes (filter : LogFilter) (h : m.Refuses frame call r)
    (hsize : m.desk.machine.memory.instructionLength? m.desk.machine.mepc = some size) :
  TurnsAway filter m frame call r size ((handleTrap frame).run filter m)
    ∧ ∀ n, ∀ s ∈ ((handleTrap frame).run filter m).state.trace filter
        (List.replicate n (.trap frame)),
      ∀ next,
        s.before.desk.machine.memory.instructionLength? s.before.desk.machine.mepc = some next →
          TurnsAway filter s.before frame call r next ((handleTrap frame).run filter s.before)
  := by
  have haway := h.turnsAway filter hsize
  use haway
  intro n s hs next hnext
  apply ((haway.refuses h).before_of_mem_trace hs).turnsAway filter hnext

/-- A monitor that has launched the sandbox. -/
def launched : Monitor RegisterBank :=
  ((prepareLaunch ⟨0x80000000, 0x80100100, 0, 0⟩).run .off
    (ofConfig calling ⟨[], false, true⟩ ⟨⟨[]⟩⟩ (.ofLayout .sample))).state

/-- A call to have the counters stored in a buffer that is too short for them. -/
def countersInFifteen : Registers :=
  ((Registers.zeros.set .a7 99).set .a0 0x80100000).set .a1 15

/-- The call is turned away twice, each time with the same warning. -/
theorem rejected_call_resumes_short :
  ∃ m' events m'' events',
    (handleTrap countersInFifteen).run (.upTo .warn) launched
      = ⟨.ok (.resume, countersInFifteen), m', events⟩
    ∧ m'.desk.machine.mepc = launched.desk.machine.mepc + 2
    ∧ m'.desk.machine.memory = launched.desk.machine.memory
    ∧ (handleTrap countersInFifteen).run (.upTo .warn) m'
      = ⟨.ok (.resume, countersInFifteen), m'', events'⟩
    ∧ ∀ e ∈ Desk.warning (.upTo .warn) .readCounters (.shortCounterBuffer 15),
      e ∈ events ∧ e ∈ events'
  := by
  have hrefuses : launched.Refuses countersInFifteen .readCounters (.shortCounterBuffer 15) :=
    ⟨by decide, rfl, rfl, .shortBuffer (by decide) (by decide)⟩
  have hsize : launched.desk.machine.memory.instructionLength? launched.desk.machine.mepc
      = some 2 := rfl
  obtain ⟨haway, hagain⟩ := rejected_call_resumes (.upTo .warn) hrefuses hsize
  rcases hrun : (handleTrap countersInFifteen).run (.upTo .warn) launched with ⟨result, m', events⟩
  rw [hrun] at haway hagain
  obtain ⟨counters, hleft, -⟩ := haway.leaves
  obtain rfl := haway.resumes
  dsimp only at hleft hagain
  have hnext : m'.desk.machine.memory.instructionLength? m'.desk.machine.mepc = some 2 := by
    rw [hleft]
    change calling.memory.instructionLength? 0x80000002 = some 2
    decide
  have hagain := hagain 1 _ List.mem_cons_self 2 hnext
  rcases hrun' : (handleTrap countersInFifteen).run (.upTo .warn) m' with ⟨result', m'', events'⟩
  rw [hrun'] at hagain
  obtain rfl := hagain.resumes
  refine ⟨m', events, m'', events', rfl, ?_, ?_, hrun', ?_⟩
  · rw [hleft]
  · rw [hleft]
  · intro e he
    exact ⟨haway.shows.warns e he, hagain.shows.warns e he⟩

end Monitor

end SandboxMonitor
