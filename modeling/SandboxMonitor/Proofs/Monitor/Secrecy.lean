import SandboxMonitor.Proofs.Monitor.MemorySafety
import SandboxMonitor.Proofs.Service.Secrecy

/-!
# Traps leak nothing from outside the window

A trap is answered alike whatever memory holds outside the service window, but for the two
bytes where the hart is: `Monitor.memory_outside_window_hidden` compares two runs that start
from memories which differ only there.
-/

namespace SandboxMonitor

open SandboxMonitor.Action

namespace Monitor

variable {B : Type} {α : Type} {c : Comparison} {R Q : Desk B → Desk B → Prop}

/-! ### Two monitors -/

/-- The monitors differ only in their desks, which are related. -/
structure Over (R : Desk B → Desk B → Prop) (m n : Monitor B) : Prop where
  same : ∃ desk, n = { m with desk }
  desk : R m.desk n.desk

theorem Over.mono {m n : Monitor B} (h : Over R m n) (hle : ∀ d e, R d e → Q d e) :
  Over Q m n
  := ⟨h.same, hle _ _ h.desk⟩

theorem uniform_onDesk {a : Action (Desk B) α} (ha : a.Uniform R Q) :
  (onDesk a).Uniform (Over R) (Over Q)
  := by
  rw [onDesk]
  apply ha.on
  · intro m n h
    apply h.desk
  · rintro m _ d e ⟨⟨desk, rfl⟩, -⟩ hde
    exact ⟨⟨e, rfl⟩, hde⟩

theorem uniform_setPhase (phase : Phase) :
  (setPhase phase).Uniform (Over R) (Over R)
  := by
  rw [setPhase]
  apply uniform_modify
  rintro m _ ⟨⟨desk, rfl⟩, hdesk⟩
  exact ⟨⟨desk, rfl⟩, hdesk⟩

theorem uniform_conclude (before : Phase) (origin : Privilege) (outcome : TrapOutcome) :
  (conclude before origin outcome).Uniform (Over R) (Over R)
  := by
  cases outcome with
  | resume => apply uniform_setPhase
  | halt fault =>
    apply Uniform.bind (uniform_log _ _)
    intro _
    apply Uniform.bind (uniform_log _ _)
    intro _
    apply uniform_setPhase

/-! ### Twins -/

theorem Over.leave {m n : Monitor B} (h : Over (Desk.TwinsAt c) m n) :
  Over (Desk.Twins c) m n
  := h.mono fun _ _ hdesk => hdesk.mono fun _ _ hmachine => hmachine.1

/-- What a monitor sees of its machine but for the memory, it sees of a twin. -/
theorem Over.sees {m n : Monitor B} (h : Over (Desk.TwinsAt c) m n) {β : Type}
    (f : Machine B → β) (hf : ∀ machine memory, f { machine with memory } = f machine) :
  f n.desk.machine = f m.desk.machine
  := by
  obtain ⟨⟨memory, hmachine⟩, -⟩ := h.desk.machine.1
  rw [hmachine, hf]

/-- A machine call is for the hook, which sees no memory. -/
theorem uniform_answerMachineCall (frame : Registers) :
  (answerMachineCall frame : Action (Monitor B) _).Uniform (Over (Desk.TwinsAt c))
    (Over (Desk.Twins c))
  := by
  rw [answerMachineCall]
  apply Uniform.of_gets
  · rintro m _ ⟨⟨desk, rfl⟩, -⟩
    rfl
  · intro m _ _
    cases m.hook with
    | none =>
      apply Uniform.of_gets
      · intro _ _ h
        apply h.sees Machine.mepc fun _ _ => rfl
      · intro _ _ _
        apply (uniform_pure _).mono
        intro _ _ h
        apply h.leave
    | some hook =>
      dsimp only
      split
      · apply Uniform.andThen
        · apply uniform_onDesk
          apply Desk.uniform_onMachine Machine.uniform_skipInstruction
        · intro _
          apply uniform_pure
        · intro _ _ h
          apply h
      · apply (uniform_pure _).mono
        intro _ _ h
        apply h.leave

theorem uniform_answer (route : TrapRoute) (frame : Registers) :
  (answer route frame : Action (Monitor B) _).Uniform (Over (Desk.TwinsAt c))
    (Over (Desk.Twins c))
  := by
  cases route with
  | fatal fault =>
    apply (uniform_pure _).mono
    intro _ _ h
    apply h.leave
  | machineCall => apply uniform_answerMachineCall
  | userCall =>
    rw [answer, answerUserCall]
    apply Uniform.andThen (uniform_onDesk (Desk.uniform_serve frame))
    · intro served
      cases served with
      | error fault => apply uniform_pure
      | ok frame => apply uniform_pure
    · intro _ _ h
      apply h

/-- A trap does the same on twins. -/
theorem uniform_handleTrap (frame : Registers) :
  (handleTrap frame : Action (Monitor B) _).Uniform (Over (Desk.TwinsAt c)) (Over (Desk.Twins c))
  := by
  have hleave : ∀ m n : Monitor B, Over (Desk.TwinsAt c) m n → Over (Desk.Twins c) m n :=
    fun _ _ h => h.leave
  rw [handleTrap]
  apply Uniform.of_gets
  · rintro m _ ⟨⟨desk, rfl⟩, -⟩
    rfl
  · intro m _ _
    split
    · apply (uniform_pure _).mono hleave
    · apply Uniform.andThen (uniform_setPhase _) _ hleave
      intro _
      apply Uniform.andThen _ _ hleave
      · apply uniform_onDesk
        apply Desk.uniform_onMachine
        apply uniform_modify
        rintro m n ⟨htwins, hpc⟩
        refine ⟨?_, hpc⟩
        apply htwins.change fun _ _ => rfl
      · intro _
        apply Uniform.of_gets
        · intro _ _ h
          apply h.sees Machine.mpp fun _ _ => rfl
        · intro s _ _
          apply Uniform.of_gets
          · intro _ _ h
            apply h.sees (fun machine => TrapRoute.of machine.mcause machine.mepc machine.mtval)
            intro _ _
            rfl
          · intro t _ _
            apply Uniform.andThen (uniform_answer _ _) _ fun _ _ h => h
            intro reply
            apply Uniform.bind (uniform_conclude _ _ _)
            intro _
            apply uniform_pure

/-! ### Secrecy -/

/-- The monitor with another memory. -/
def withMemory (m : Monitor B) (memory : Memory) : Monitor B :=
  { m with desk := m.desk.withMachine { m.desk.machine with memory } }

/-- Twins are the same monitor with two memories. -/
theorem eq_withMemory_of_over {m n : Monitor B} (h : Over (Desk.Twins c) m n) :
  n = m.withMemory n.desk.machine.memory
  := by
  obtain ⟨⟨desk, rfl⟩, ⟨⟨machine, hdesk⟩, -, ⟨⟨memory, hmachine⟩, -⟩⟩⟩ := h
  change desk = _ at hdesk
  subst hdesk
  change machine = _ at hmachine
  subst hmachine
  rfl

/-- Two monitors that differ only in memory, and there neither in the service window nor in the
two bytes where the hart is, answer a trap alike: with the same answer or the same stop, the
same events, and states that again differ only in memory.  The memories that they leave agree
where those they had did, and each is unchanged outside the window. -/
theorem memory_outside_window_hidden (filter : LogFilter) (m : Monitor B) (frame : Registers)
    {memory : Memory}
    (hagree : m.desk.machine.memory.AgreeOn (m.desk.window.Reveals m.desk.machine.mepc) memory) :
  ∃ result events m' memory', (handleTrap frame).run filter m = ⟨result, m', events⟩
    ∧ (handleTrap frame).run filter (m.withMemory memory)
      = ⟨result, m'.withMemory memory', events⟩
    ∧ m'.desk.machine.memory.AgreeOn (m.desk.window.Reveals m.desk.machine.mepc) memory'
    ∧ m.desk.machine.memory.AgreeOn (¬ m.desk.window.Spans ·) m'.desk.machine.memory
    ∧ memory.AgreeOn (¬ m.desk.window.Spans ·) memory'
  := by
  have htwins : Over (Desk.TwinsAt ⟨m.desk.window, m.desk.delivery, m.desk.machine.mepc,
      m.desk.machine.memory, memory⟩) m (m.withMemory memory) :=
    ⟨⟨_, rfl⟩, ⟨_, rfl⟩, ⟨rfl, rfl⟩, ⟨⟨memory, rfl⟩, hagree, .refl _ _, .refl _ _⟩, rfl⟩
  obtain ⟨result, events, m', n', hm, hn, hafter⟩ := uniform_handleTrap frame filter _ _ htwins
  have hmachine := hafter.desk.machine
  use result, events, m', n'.desk.machine.memory, hm
  rw [hn, eq_withMemory_of_over hafter]
  use rfl, hmachine.agree, hmachine.keeps, hmachine.keeps'

/-- A monitor that is asked to run an engine which answers its input. -/
def echoing : Monitor RegisterBank :=
  ofConfig calling ⟨[], false, false⟩ ⟨⟨[.echo]⟩⟩
    { Config.ofLayout .sample with window := some ⟨0x80100000, 0x80100040⟩ }

/-- A call for an inference on four bytes. -/
def callOfFour : Registers := .ofList [0, 0, 0, 0, 0, 0, 0, 0, 0, 0, 0x80100000, 4]

/-- The engine is given the same four bytes whatever a byte outside the window is. -/
theorem memory_outside_window_hidden_echo :
  ∃ events m' memory',
    (handleTrap callOfFour).run .off echoing = ⟨.ok (.resume, callOfFour), m', events⟩
    ∧ (handleTrap callOfFour).run .off (echoing.withMemory (calling.memory.write 0x80000008 [1]))
      = ⟨.ok (.resume, callOfFour), m'.withMemory memory', events⟩
    ∧ .infer [0, 0, 0, 0] ∈ events
  := by
  have hagree : calling.memory.AgreeOn
      (echoing.desk.window.Reveals echoing.desk.machine.mepc)
      (calling.memory.write 0x80000008 [1]) := by
    apply Memory.agreeOn_write
    intro a hlo hhi hreveals
    change 0x80000008 ≤ a at hlo
    change a < 0x80000008 + 1 at hhi
    change (0x80100000 ≤ a ∧ a < 0x80100040) ∨ a = 0x80000000 ∨ a = 0x80000000 + 1 at hreveals
    omega
  obtain ⟨result, events, m', memory', hrun, hrun', -⟩ :=
    memory_outside_window_hidden .off echoing callOfFour hagree
  obtain rfl : result = .ok (.resume, callOfFour) := (congrArg Outcome.result hrun).symm
  have hsame : ((handleTrap callOfFour).run .off echoing).events = events :=
    congrArg Outcome.events hrun
  have hinfer : .infer [0, 0, 0, 0] ∈ events := by
    rw [← hsame]
    apply List.Mem.tail _ (List.Mem.head _)
  use events, m', memory', hrun, hrun', hinfer

end Monitor

end SandboxMonitor
