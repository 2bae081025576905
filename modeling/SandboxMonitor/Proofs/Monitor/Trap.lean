import SandboxMonitor.Monitor.Basic
import SandboxMonitor.Proofs.Monitor.Arming

/-!
# Answering a trap

A trap changes neither the rules of the monitor nor the protection registers, and only a call
from user mode, which has the cause 8, may request sandbox memory (`Monitor.run_handleTrap`).
Its answer resumes in the phase that the trap was taken in, or halts
(`Monitor.phase_of_gives_handleTrap`).
-/

namespace SandboxMonitor

open SandboxMonitor.Action

/-! ### The cause of a call -/

/-- A word is put together from bit 31 and the bits below it. -/
theorem low_or_high_eq (w : UInt32) :
  w &&& 0x7FFFFFFF ||| w &&& 0x80000000 = w
  := by
  rw [← UInt32.toBitVec_inj, UInt32.toBitVec_or, UInt32.toBitVec_and, UInt32.toBitVec_and,
    ← BitVec.and_or_distrib_left]
  apply BitVec.and_allOnes

theorem ExceptionCode.toNat_of_ofCode_eq_userCall {code : UInt32}
    (h : ofCode code = .userCall) :
  code.toNat = 8
  := by
  rw [ofCode] at h
  split at h <;> first | assumption | cases h

theorem TrapCause.ofWord_eq_userCall_iff {mcause : UInt32} :
  ofWord mcause = .exception .userCall ↔ mcause = 8
  := by
  constructor
  · intro h
    rw [ofWord] at h
    split at h
    · rename_i hhigh
      have hlow : (mcause &&& 0x7FFFFFFF).toNat = 8 := by
        apply ExceptionCode.toNat_of_ofCode_eq_userCall
        injection h
      rw [← low_or_high_eq mcause, hhigh, UInt32.or_zero]
      apply UInt32.toNat_inj.mp hlow
    · cases h
  · rintro rfl
    rfl

namespace Monitor

variable {B : Type} {m : Monitor B} {E : Event → Prop}

/-- A trap is routed to the services when its cause is that of a call from user mode. -/
theorem route_eq_userCall_iff :
  m.route = .userCall ↔ m.desk.machine.mcause = 8
  := by
  rw [route, TrapRoute.of, ← TrapCause.ofWord_eq_userCall_iff]
  split <;> simp_all

/-! ### Confinement -/

/-- The monitor treats sandbox memory as before, and so does the hart. -/
structure Steady (m m' : Monitor B) : Prop where
  alike : m.Alike m'
  bank : m'.desk.machine.bank = m.desk.machine.bank

theorem Steady.refl (m : Monitor B) :
  m.Steady m
  := ⟨.refl m, rfl⟩

theorem confined_onDesk {α : Type} {a : Action (Desk B) α}
    (ha : a.Confined (Desk.Held m.desk.window m.desk.delivery m.desk.machine.bank) E) :
  (onDesk a).Confined m.Steady E
  := by
  rw [onDesk]
  apply ha.on
  · rintro s ⟨hs, hbank⟩
    use ⟨hs.window, hs.delivery⟩, hbank
  · rintro s d ⟨hs, -⟩ ⟨hd, hbank⟩
    use ⟨hs.layout, hs.explicitWindow, hs.installed, hd.1, hd.2⟩, hbank

theorem confined_onMachine {α : Type} {a : Action (Machine B) α}
    (ha : a.Confined (Machine.HasBank m.desk.machine.bank) E) :
  (onMachine a).Confined m.Steady E
  := by
  rw [onMachine]
  apply confined_onDesk (Desk.confined_onMachine ha)

theorem confined_setPhase (phase : Phase) :
  (setPhase phase).Confined m.Steady E
  := by
  rw [setPhase]
  apply confined_modify
  rintro s ⟨hs, hbank⟩
  use hs.trans (s.alike_withPhase phase), hbank

/-- Only the answer to a call from user mode requests sandbox memory, and then only buffers
that the service window serves. -/
theorem confined_answer (route : TrapRoute) (frame : Registers) :
  (answer route frame).Confined m.Steady
    (Event.RequestsOnly fun addr length => route = .userCall ∧ m.desk.window.Serves addr length)
  := by
  cases route with
  | fatal fault => apply confined_pure
  | machineCall =>
    rw [answer, answerMachineCall]
    apply Confined.bind (confined_gets _)
    intro hook
    cases hook with
    | none =>
      apply Confined.bind (confined_gets _)
      intro _
      apply confined_pure
    | some hook =>
      dsimp only
      split
      · apply Confined.bind (confined_onMachine Machine.confined_skipInstruction)
        intro _
        apply confined_pure
      · apply confined_pure
  | userCall =>
    rw [answer, answerUserCall]
    apply Confined.bind
    · apply confined_onDesk
      apply (Desk.confined_serve frame).mono
      intro e he
      apply he.mono
      intro addr length hserves
      exact ⟨rfl, hserves⟩
    · intro answer
      cases answer with
      | error fault => apply confined_pure
      | ok frame => apply confined_pure

theorem confined_conclude {allowed : UInt32 → UInt32 → Prop} (before : Phase)
    (origin : Privilege) (outcome : TrapOutcome) :
  (conclude before origin outcome).Confined m.Steady (Event.RequestsOnly allowed)
  := by
  cases outcome with
  | resume => apply confined_setPhase
  | halt fault =>
    apply Confined.bind (confined_log _ trivial)
    intro _
    apply Confined.bind (confined_log _ trivial)
    intro _
    apply confined_setPhase

/-- The monitor while it answers a trap. -/
def trapped (m : Monitor B) : Monitor B :=
  { m with
    phase := .trapped
    desk := { m.desk with machine := { m.desk.machine with mie := false } } }

/-- A monitor that has halted touches nothing. -/
theorem run_handleTrap_of_halted (filter : LogFilter) (frame : Registers)
    (h : m.phase = .halted) :
  (handleTrap frame).run filter m = ⟨.ok (.halt .alreadyHalted, frame), m, []⟩
  := by
  rw [handleTrap, run_bind]
  simp only [run_gets, if_pos h, run_pure, List.nil_append]

/-- A trap is answered by its route, unless the monitor has halted. -/
theorem run_handleTrap_of_ne_halted (filter : LogFilter) (frame : Registers)
    (h : m.phase ≠ .halted) :
  (handleTrap frame).run filter m
    = (answer m.route frame >>= fun reply => do
        conclude m.phase m.desk.machine.mpp reply.1
        return reply).run filter m.trapped
  := by
  rw [handleTrap, run_bind]
  simp only [run_gets, if_neg h]
  rfl

/-- An answer to resume brings the monitor back to the phase that the trap was taken in. -/
theorem run_handleTrap_of_resume {filter : LogFilter} {s : Monitor B} {frame frame' : Registers}
    {events : List Event} (hphase : m.phase ≠ .halted)
    (h : (answer m.route frame).run filter m.trapped = ⟨.ok (.resume, frame'), s, events⟩) :
  (handleTrap frame).run filter m
    = ⟨.ok (.resume, frame'), { s with phase := m.phase }, events⟩
  := by
  have hconclude : (conclude m.phase m.desk.machine.mpp .resume).run filter s
      = ⟨.ok (), { s with phase := m.phase }, []⟩ := rfl
  rw [run_handleTrap_of_ne_halted filter frame hphase,
    run_bind_of_ok h (run_bind_of_ok hconclude rfl), List.append_nil, List.append_nil]

/-- An answer that does not come leaves the monitor in the trap. -/
theorem run_handleTrap_of_error {filter : LogFilter} {s : Monitor B} {frame : Registers}
    {why : Stop} {events : List Event} (hphase : m.phase ≠ .halted)
    (h : (answer m.route frame).run filter m.trapped = ⟨.error why, s, events⟩) :
  (handleTrap frame).run filter m = ⟨.error why, s, events⟩
  := by
  rw [run_handleTrap_of_ne_halted filter frame hphase, run_bind_of_error _ h]

/-- A trap changes no rules and no protection registers, and only a call from user mode
requests sandbox memory. -/
theorem run_handleTrap (filter : LogFilter) (m : Monitor B) (frame : Registers) :
  m.Steady ((handleTrap frame).run filter m).state
    ∧ ∀ e ∈ ((handleTrap frame).run filter m).events,
      e.RequestsOnly fun addr length =>
        m.desk.machine.mcause = 8 ∧ m.desk.window.Serves addr length
  := by
  by_cases h : m.phase = .halted
  · rw [run_handleTrap_of_halted filter frame h]
    use .refl m, List.forall_mem_nil _
  · rw [run_handleTrap_of_ne_halted filter frame h]
    rw [← route_eq_userCall_iff]
    apply (Confined.bind (confined_answer m.route frame) _) filter
    · use ⟨rfl, rfl, rfl, rfl, rfl⟩
      rfl
    · intro reply
      apply Confined.bind (confined_conclude _ _ _)
      intro _
      apply confined_pure

/-- A trap that resumes leaves the phase that it was taken in, and any other leaves the monitor
halted. -/
theorem phase_of_gives_handleTrap {filter : LogFilter} {m' : Monitor B} {frame frame' : Registers}
    {outcome : TrapOutcome} (h : Gives filter m (handleTrap frame) (outcome, frame') m') :
  (outcome = .resume ∧ m'.phase = m.phase)
    ∨ ((∃ fault, outcome = .halt fault) ∧ m'.phase = .halted)
  := by
  by_cases hhalted : m.phase = .halted
  · rw [Gives, run_handleTrap_of_halted filter frame hhalted] at h
    obtain ⟨hresult, rfl⟩ := h
    cases hresult
    right
    use ⟨.alreadyHalted, rfl⟩, hhalted
  · rw [Gives, run_handleTrap_of_ne_halted filter frame hhalted] at h
    obtain ⟨⟨outcome', frame''⟩, s, -, hrest⟩ := gives_bind.mp h
    obtain ⟨_, t, hconclude, hpure⟩ := gives_bind.mp hrest
    obtain ⟨hreply, rfl⟩ := gives_pure.mp hpure
    cases hreply
    cases outcome with
    | resume =>
      obtain rfl := gives_modify.mp hconclude
      left
      exact ⟨rfl, rfl⟩
    | halt fault =>
      obtain ⟨_, _, -, hconclude⟩ := gives_bind.mp hconclude
      obtain ⟨_, _, -, hconclude⟩ := gives_bind.mp hconclude
      obtain rfl := gives_modify.mp hconclude
      right
      exact ⟨⟨fault, rfl⟩, rfl⟩

/-! ### Calls from user mode -/

section UserCall

variable {filter : LogFilter} {frame : Registers} {d : Desk B} {events : List Event}

theorem run_onDesk {α : Type} (a : Action (Desk B) α) (filter : LogFilter) (m : Monitor B) :
  (onDesk a).run filter m
    = ⟨(a.run filter m.desk).result, { m with desk := (a.run filter m.desk).state },
        (a.run filter m.desk).events⟩
  := rfl

/-- A call from user mode resumes when it is served, and halts when it cannot be. -/
theorem run_answerUserCall (filter : LogFilter) (m : Monitor B) (frame : Registers) :
  (answerUserCall frame).run filter m
    = match (Desk.serve frame).run filter m.desk with
      | ⟨.ok (.ok frame'), d, events⟩ => ⟨.ok (.resume, frame'), { m with desk := d }, events⟩
      | ⟨.ok (.error fault), d, events⟩ => ⟨.ok (.halt fault, frame), { m with desk := d }, events⟩
      | ⟨.error why, d, events⟩ => ⟨.error why, { m with desk := d }, events⟩
  := by
  rw [answerUserCall, run_bind, run_onDesk]
  rcases (Desk.serve frame).run filter m.desk with ⟨_ | _ | _, d, events⟩
  · rfl
  · simp only [run_pure, List.append_nil]
  · simp only [run_pure, List.append_nil]

/-- A call that is served leaves what serving it leaves, in the phase it was made in. -/
theorem run_handleTrap_of_serve {frame' : Registers} (hphase : m.phase ≠ .halted)
    (hcause : m.desk.machine.mcause = 8) (hmasked : m.desk.machine.mie = false)
    (hserve : (Desk.serve frame).run filter m.desk = ⟨.ok (.ok frame'), d, events⟩) :
  (handleTrap frame).run filter m = ⟨.ok (.resume, frame'), { m with desk := d }, events⟩
  := by
  have htrapped : m.trapped.desk = m.desk := by rw [trapped, ← hmasked]
  have hanswer : (answer m.route frame).run filter m.trapped
      = ⟨.ok (.resume, frame'), { m.trapped with desk := d }, events⟩ := by
    rw [route_eq_userCall_iff.mpr hcause, answer, run_answerUserCall, htrapped, hserve]
  apply run_handleTrap_of_resume hphase hanswer

/-- A call that does not return leaves the monitor in the trap. -/
theorem run_handleTrap_of_stop {why : Stop} (hphase : m.phase ≠ .halted)
    (hcause : m.desk.machine.mcause = 8) (hmasked : m.desk.machine.mie = false)
    (hserve : (Desk.serve frame).run filter m.desk = ⟨.error why, d, events⟩) :
  (handleTrap frame).run filter m
    = ⟨.error why, { m with desk := d, phase := .trapped }, events⟩
  := by
  have htrapped : m.trapped.desk = m.desk := by rw [trapped, ← hmasked]
  apply run_handleTrap_of_error hphase
  rw [route_eq_userCall_iff.mpr hcause, answer, run_answerUserCall, htrapped, hserve]
  rfl

end UserCall

end Monitor

end SandboxMonitor
