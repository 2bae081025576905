import SandboxMonitor.Proofs.Monitor.Secrecy
import SandboxMonitor.Proofs.Service.Logging

/-!
# Logging changes nothing

What a monitor does is compared under two log filters (`Monitor.logging_transparent`).  Arming
and preparing a launch differ in nothing but log records, and so does answering a trap, unless it
asks for an inference that only one of the filters has measured.  Such a trap may also differ in
what it reads from the counters, and in what is left for them to answer.
-/

namespace SandboxMonitor

open SandboxMonitor.Action

variable {B α : Type} {f g : LogFilter} {counted : Bool}

/-! ### Installing -/

theorem agree_warnIfDegraded (ws : Windows) :
  (warnIfDegraded ws : Action B Unit).Indifferent f g (Event.compared true) Eq
  := by
  rw [warnIfDegraded]
  cases ws.isolation with
  | split => apply agree_pure
  | degraded => apply agree_log _ rfl

section Installing

variable [ProtectionBank B]

theorem agree_writeEntry (index : Nat) (e : Entry) :
  (writeEntry index e : Action B Unit).Indifferent f g (Event.compared true) Eq
  := by
  rw [writeEntry]
  apply Agree.bind (agree_emit _)
  intro _
  apply agree_change

theorem agree_writeEntries (entries : List Entry) (first : Nat) :
  (writeEntries first entries : Action B Unit).Indifferent f g (Event.compared true) Eq
  := by
  induction entries generalizing first with
  | nil => apply agree_pure
  | cons e rest ih =>
    rw [writeEntries]
    apply Agree.bind (agree_writeEntry _ _)
    intro _
    apply ih

theorem agree_clearStale (index : Nat) :
  (clearStale index : Action B Unit).Indifferent f g (Event.compared true) Eq
  := by
  rw [clearStale]
  apply Agree.bind agree_state
  intro b
  dsimp only
  split
  · apply agree_pure
  · split
    · apply agree_log _ rfl
    · apply Agree.bind (agree_log _ rfl)
      intro _
      apply agree_writeEntry

theorem agree_sweep (count first : Nat) :
  (sweep first count : Action B Unit).Indifferent f g (Event.compared true) Eq
  := by
  induction count generalizing first with
  | zero => apply agree_pure
  | succ count ih =>
    rw [sweep]
    apply Agree.bind (agree_clearStale _)
    intro _
    apply ih

theorem agree_install (plan : Plan) :
  (install plan : Action B _).Indifferent f g (Event.compared true) Eq
  := by
  rw [install]
  apply Agree.bind agree_state
  intro b
  cases ProtectionBank.refusal? b plan with
  | some e => apply agree_pure
  | none =>
    apply Agree.bind (agree_writeEntries _ _)
    intro _
    apply Agree.bind agree_state
    intro written
    cases ProtectionBank.readback? written plan with
    | some e => apply agree_pure
    | none =>
      apply Agree.bind (agree_sweep _ _)
      intro _
      apply agree_pure

theorem agree_installLayout (layout : Layout) :
  (installLayout layout : Action B _).Indifferent f g (Event.compared true) Eq
  := by
  rw [installLayout]
  cases layout.windows with
  | error e => apply agree_pure
  | ok windows =>
    dsimp only
    cases windows.plan with
    | error e => apply agree_pure
    | ok plan =>
      apply Agree.bind (agree_install plan)
      intro installed
      cases installed with
      | error e => apply agree_pure
      | ok u =>
        apply Agree.bind (agree_warnIfDegraded windows)
        intro _
        apply Agree.bind (agree_log _ rfl)
        intro _
        apply agree_pure

end Installing

namespace Monitor

/-! ### Launching -/

section Launching

variable [ProtectionBank B]

theorem agree_adopt (installed : Installed) :
  (adopt installed : Action (Monitor B) Unit).Indifferent f g (Event.compared true) Eq
  := by
  rw [adopt]
  apply Agree.bind (agree_change _)
  intro _
  apply Agree.of_gets
  · rintro m _ rfl
    rfl
  · intro m _ _
    apply Agree.bind (agree_log _ rfl)
    intro _
    apply agree_change

/-- Arming differs only in log records. -/
theorem agree_arm :
  (arm : Action (Monitor B) _).Indifferent f g (Event.compared true) Eq
  := by
  rw [arm]
  apply Agree.bind agree_state
  intro m
  split
  · apply agree_pure
  · cases m.installed with
    | some installed => apply agree_pure
    | none =>
      dsimp only
      cases m.checkLayout with
      | error e => apply agree_pure
      | ok u =>
        apply Agree.bind
        · rw [onMachine, onDesk, Desk.onMachine, Machine.onBank]
          apply Agree.on_eq
          apply Agree.on_eq
          apply Agree.on_eq
          apply agree_installLayout
        · intro answer
          cases answer with
          | error e => apply agree_pure
          | ok installed =>
            apply Agree.bind (agree_adopt installed)
            intro _
            apply agree_pure

/-- Preparing a launch differs only in log records. -/
theorem agree_prepareLaunch (request : LaunchRequest) :
  (prepareLaunch request : Action (Monitor B) _).Indifferent f g (Event.compared true) Eq
  := by
  rw [prepareLaunch]
  apply Agree.bind agree_arm
  intro armed
  cases armed with
  | error e => apply agree_pure
  | ok installed =>
    dsimp only
    cases LaunchContext.of installed request with
    | error e => apply agree_pure
    | ok context =>
      apply Agree.bind (agree_log _ rfl)
      intro _
      apply Agree.bind (agree_change _)
      intro _
      apply agree_pure

end Launching

/-! ### Traps -/

/-- The monitor with counters that have been read. -/
def withCounters (m : Monitor B) (counters : Counters) : Monitor B :=
  { m with desk := m.desk.withCounters counters }

/-- The monitors differ only in what their counters answer, and not even there if readings
count. -/
def Same (counted : Bool) (m n : Monitor B) : Prop :=
  ∃ counters, n = m.withCounters counters ∧ (counted = true → counters = m.desk.machine.counters)

theorem Same.refl (m : Monitor B) :
  m.Same counted m
  := ⟨m.desk.machine.counters, rfl, fun _ => rfl⟩

theorem agree_onDesk {a : Action (Desk B) α}
    (h : a.Indifferent f g (Event.compared counted) (Desk.Same counted)) :
  (onDesk a).Indifferent f g (Event.compared counted) (Same counted)
  := by
  rw [onDesk]
  apply h.on
  · rintro m _ ⟨counters, rfl, hcounters⟩
    exact ⟨counters, rfl, hcounters⟩
  · rintro m _ d _ ⟨_, rfl, -⟩ ⟨counters, rfl, hcounters⟩
    exact ⟨counters, rfl, hcounters⟩

theorem agree_setPhase (phase : Phase) :
  (setPhase phase : Action (Monitor B) Unit).Indifferent f g (Event.compared counted) (Same counted)
  := by
  rw [setPhase]
  apply agree_modify
  rintro m _ ⟨counters, rfl, hcounters⟩
  exact ⟨counters, rfl, hcounters⟩

theorem agree_conclude (before : Phase) (origin : Privilege) (outcome : TrapOutcome) :
  (conclude before origin outcome : Action (Monitor B) Unit).Indifferent f g
    (Event.compared counted) (Same counted)
  := by
  cases outcome with
  | resume => apply agree_setPhase
  | halt fault =>
    apply Agree.bind (agree_log _ rfl)
    intro _
    apply Agree.bind (agree_log _ rfl)
    intro _
    apply agree_setPhase

theorem agree_answerMachineCall (frame : Registers) :
  (answerMachineCall frame : Action (Monitor B) _).Indifferent f g (Event.compared counted)
    (Same counted)
  := by
  rw [answerMachineCall]
  apply Agree.of_gets
  · rintro m _ ⟨_, rfl, -⟩
    rfl
  · intro m _ _
    cases m.hook with
    | none =>
      apply Agree.of_gets
      · rintro m _ ⟨_, rfl, -⟩
        rfl
      · intro m _ _
        apply agree_pure
    | some hook =>
      dsimp only
      split
      · apply Agree.bind
        · apply agree_onDesk
          apply Desk.agree_onMachine Machine.agree_skipInstruction
        · intro _
          apply agree_pure
      · apply agree_pure

theorem agree_answer {route : TrapRoute} {frame : Registers}
    (h : route = .userCall → ∀ call, Call.ofId? (frame.get .a7) = some call →
      Desk.Comparable f g counted call) :
  (answer route frame : Action (Monitor B) _).Indifferent f g (Event.compared counted)
    (Same counted)
  := by
  cases route with
  | fatal fault => apply agree_pure
  | machineCall => apply agree_answerMachineCall
  | userCall =>
    rw [answer, answerUserCall]
    apply Agree.bind (agree_onDesk (Desk.agree_serve (h rfl)))
    intro served
    cases served with
    | error fault => apply agree_pure
    | ok frame => apply agree_pure

/-- A trap differs only in log records, and in readings of counters where these do not count. -/
theorem agree_handleTrap {m : Monitor B} {frame : Registers}
    (h : m.desk.machine.mcause = 8 → ∀ call, Call.ofId? (frame.get .a7) = some call →
      Desk.Comparable f g counted call) :
  ((handleTrap frame).run f m).Agree (Event.compared counted) (Same counted)
    ((handleTrap frame).run g m)
  := by
  by_cases hphase : m.phase = .halted
  · rw [run_handleTrap_of_halted f frame hphase, run_handleTrap_of_halted g frame hphase]
    exact ⟨rfl, .refl m, rfl⟩
  · rw [run_handleTrap_of_ne_halted f frame hphase, run_handleTrap_of_ne_halted g frame hphase]
    apply Agree.bind
    · apply agree_answer
      rw [route_eq_userCall_iff]
      apply h
    · intro reply
      apply Agree.bind (agree_conclude _ _ _)
      intro _
      apply agree_pure
    · apply Same.refl

/-! ### Transparency -/

/-- The trap asks for an inference. -/
def AsksInference (m : Monitor B) (frame : Registers) : Prop :=
  m.desk.machine.mcause = 8 ∧ frame.get .a7 = Call.infer.id

instance (m : Monitor B) (frame : Registers) : Decidable (m.AsksInference frame) :=
  inferInstanceAs (Decidable (_ ∧ _))

/-- The monitors differ only in what their counters answer. -/
def SameButCounters (m n : Monitor B) : Prop := ∃ counters, n = m.withCounters counters

theorem Same.sameButCounters {m n : Monitor B} (h : Same counted m n) :
  SameButCounters m n
  := by
  obtain ⟨counters, rfl, -⟩ := h
  exact ⟨counters, rfl⟩

theorem Same.eq {m n : Monitor B} (h : Same true m n) :
  m = n
  := by
  obtain ⟨counters, rfl, hcounters⟩ := h
  obtain rfl := hcounters rfl
  rfl

/-- A trap differs only in log records, unless it asks for an inference that only one of the
filters has measured. -/
theorem agree_handleTrap_of_measured {m : Monitor B} {frame : Registers}
    (h : ¬ (m.AsksInference frame ∧ f.keeps .debug ≠ g.keeps .debug)) :
  ((handleTrap frame).run f m).Agree (Event.compared true) Eq ((handleTrap frame).run g m)
  := by
  have hagree : ((handleTrap frame).run f m).Agree (Event.compared true) (Same true)
      ((handleTrap frame).run g m) := by
    apply agree_handleTrap
    intro hcause call hcall
    constructor
    · rintro - rfl
      have hasks : m.AsksInference frame := ⟨hcause, Call.ofId?_eq_some_iff.mp hcall⟩
      apply (not_not.mp (not_and.mp h hasks)).symm
    · nofun
  apply hagree.mono (fun _ he => he) fun _ _ => Same.eq

/-- An inference differs only in log records and in readings of counters. -/
theorem agree_handleTrap_of_asksInference {m : Monitor B} {frame : Registers}
    (h : m.AsksInference frame) :
  ((handleTrap frame).run f m).Agree (Event.compared false) SameButCounters
    ((handleTrap frame).run g m)
  := by
  have hagree : ((handleTrap frame).run f m).Agree (Event.compared false) (Same false)
      ((handleTrap frame).run g m) := by
    apply agree_handleTrap
    intro _ call hcall
    constructor
    · nofun
    · rintro -
      rw [Call.ofId?_eq_some_iff.mpr h.2] at hcall
      apply (Option.some.inj hcall).symm
  apply hagree.mono (fun _ he => he) fun _ _ => Same.sameButCounters

/-- Under two log filters, a monitor does the same but for log records: the outcomes have the
same result, the same state and the same other events.  Only where a trap asks for an inference
that one of the filters has measured may they differ in more, which is in readings of the counters
and in what the counters have left to answer. -/
theorem logging_transparent [ProtectionBank B] (f g : LogFilter) (m : Monitor B) :
  (∀ frame, ((handleTrap frame).run f m).Agree (Event.compared false) SameButCounters
      ((handleTrap frame).run g m)
    ∧ (¬ (m.AsksInference frame ∧ f.keeps .debug ≠ g.keeps .debug) →
      ((handleTrap frame).run f m).Agree (Event.compared true) Eq ((handleTrap frame).run g m)))
    ∧ (arm.run f m).Agree (Event.compared true) Eq (arm.run g m)
    ∧ ∀ request, ((prepareLaunch request).run f m).Agree (Event.compared true) Eq
      ((prepareLaunch request).run g m)
  := by
  and_intros
  · intro frame
    use ?_, agree_handleTrap_of_measured
    by_cases hasks : m.AsksInference frame
    · apply agree_handleTrap_of_asksInference hasks
    · have hagree := agree_handleTrap_of_measured (f := f) (g := g) fun h => hasks h.1
      apply hagree.mono
      · intro e he
        cases e <;> first | rfl | cases he
      · rintro m _ rfl
        exact ⟨m.desk.machine.counters, rfl⟩
  · apply agree_arm m m rfl
  · intro request
    apply agree_prepareLaunch request m m rfl

/-- An inference is run alike when it is measured, and its readings count when it is not. -/
theorem logging_transparent_echo :
  ((handleTrap callOfFour).run .off echoing).Agree (Event.compared false) SameButCounters
      ((handleTrap callOfFour).run (.upTo .debug) echoing)
    ∧ ((handleTrap callOfFour).run .off echoing).Agree (Event.compared true) Eq
      ((handleTrap callOfFour).run (.upTo .info) echoing)
    ∧ .infer [0, 0, 0, 0] ∈ ((handleTrap callOfFour).run .off echoing).events
  := by
  obtain ⟨htrap, -⟩ := logging_transparent .off (.upTo .debug) echoing
  obtain ⟨htrap', -⟩ := logging_transparent .off (.upTo .info) echoing
  and_intros
  · apply (htrap callOfFour).1
  · apply (htrap' callOfFour).2
    decide
  · apply List.Mem.tail _ (List.Mem.head _)

end Monitor

end SandboxMonitor
