import SandboxMonitor.Proofs.Monitor.Trap

/-!
# Runs of a monitor

A monitor is armed, asked to prepare launches and given traps to answer, in any order, and
between these the machine and the devices change as they like.  `Monitor.trace` lists the
steps of such a run up to the first one that stops.  What every operation that returns keeps
(`Monitor.Kept`) holds before each step of a run.  So, whatever the run, each step starts from
a monitor into which the first one has evolved, and once a launch has been prepared the
regions are in force (`Monitor.trace_split`).
-/

namespace SandboxMonitor

/-- Something that happens to a monitor. -/
inductive Operation (B : Type) where
  | arm
  | prepareLaunch (request : LaunchRequest)
  /-- A trap is answered; its cause is in the registers of the machine. -/
  | trap (frame : Registers)
  /-- The machine and the devices are found changed: the sandbox has run, a trap has been
  taken, bytes have come in. -/
  | meanwhile (machine : Machine B) (line : SerialLine) (engine : Engine)

/-- What an operation answers. -/
inductive Answer where
  | armed (answer : Except LaunchError Installed)
  | prepared (answer : Except LaunchError LaunchContext)
  | trapped (outcome : TrapOutcome) (frame : Registers)
  | nothing

/-- One operation of a run. -/
structure Step (B : Type) where
  before : Monitor B
  operation : Operation B
  outcome : Outcome (Monitor B) Answer

namespace Step

variable {B : Type}

/-- The step has prepared a launch. -/
def Launches (s : Step B) : Prop := ∃ context, s.outcome.result = .ok (.prepared (.ok context))

/-- The step answers a call from user mode. -/
def IsUserCall (s : Step B) : Prop :=
  (∃ frame, s.operation = .trap frame) ∧ s.before.desk.machine.mcause = 8

/-- The step requests a buffer of the sandbox to read it. -/
def Reads (s : Step B) (addr length : UInt32) : Prop := Event.read addr length ∈ s.outcome.events

/-- The step requests a buffer of the sandbox to write to it. -/
def Writes (s : Step B) (addr length : UInt32) : Prop := Event.write addr length ∈ s.outcome.events

/-- The step requests a buffer of the sandbox. -/
def Requests (s : Step B) (addr length : UInt32) : Prop :=
  s.Reads addr length ∨ s.Writes addr length

end Step

variable {B : Type} [ProtectionBank B] {filter : LogFilter}

/-- Carries out an operation. -/
def Operation.perform : Operation B → Action (Monitor B) Answer
  | arm => return .armed (← Monitor.arm)
  | prepareLaunch request => return .prepared (← Monitor.prepareLaunch request)
  | trap frame => do
    let (outcome, frame) ← Monitor.handleTrap frame
    return .trapped outcome frame
  | meanwhile machine line engine => do
    .modify fun m => { m with desk := { m.desk with machine, line, engine } }
    return .nothing

/-- The steps of a run, which ends where an operation stops. -/
def Monitor.trace (filter : LogFilter) (m : Monitor B) : List (Operation B) → List (Step B)
  | [] => []
  | operation :: rest =>
    let outcome := operation.perform.run filter m
    ⟨m, operation, outcome⟩ :: match outcome.result with
      | .ok _ => trace filter outcome.state rest
      | .error _ => []

/-! ### One step -/

open SandboxMonitor.Action

/-- An operation lets the monitor evolve, and only a call from user mode requests sandbox
memory, and then only buffers that the service window serves. -/
theorem Operation.run_perform (filter : LogFilter) (m : Monitor B) (operation : Operation B) :
  m.Evolves (operation.perform.run filter m).state
    ∧ ∀ e ∈ (operation.perform.run filter m).events, e.RequestsOnly fun addr length =>
      (∃ frame, operation = .trap frame) ∧ m.desk.machine.mcause = 8
        ∧ m.desk.window.Serves addr length
  := by
  cases operation with
  | arm =>
    obtain ⟨hevolves, hevents⟩ := Monitor.run_arm _ filter m
    apply Confined.after (P := m.Evolves) hevolves hevents
    intro _
    apply confined_pure
  | prepareLaunch request =>
    obtain ⟨hevolves, hevents⟩ := Monitor.run_prepareLaunch _ filter m request
    apply Confined.after (P := m.Evolves) hevolves hevents
    intro _
    apply confined_pure
  | trap frame =>
    obtain ⟨hsteady, hevents⟩ := Monitor.run_handleTrap filter m frame
    apply Confined.after (P := m.Evolves) (.alike hsteady.alike)
    · intro e he
      apply (hevents e he).mono
      intro addr length h
      exact ⟨⟨frame, rfl⟩, h⟩
    · intro _
      apply confined_pure
  | meanwhile machine line engine =>
    use .alike ⟨rfl, rfl, rfl, rfl, rfl⟩, List.forall_mem_nil _

/-- What an operation that returns answers, and the monitor that it leaves. -/
inductive Operation.Answers (filter : LogFilter) (m m' : Monitor B) :
    Operation B → Answer → Prop where
  | arm {answer : Except LaunchError Installed} (h : Gives filter m Monitor.arm answer m') :
      Answers filter m m' .arm (.armed answer)
  | prepareLaunch {request : LaunchRequest} {answer : Except LaunchError LaunchContext}
      (h : Gives filter m (Monitor.prepareLaunch request) answer m') :
      Answers filter m m' (.prepareLaunch request) (.prepared answer)
  | trap {frame frame' : Registers} {outcome : TrapOutcome}
      (h : Gives filter m (Monitor.handleTrap frame) (outcome, frame') m') :
      Answers filter m m' (.trap frame) (.trapped outcome frame')
  | meanwhile {machine : Machine B} {line : SerialLine} {engine : Engine}
      (h : m' = { m with desk := { m.desk with machine, line, engine } }) :
      Answers filter m m' (.meanwhile machine line engine) .nothing

theorem Operation.answers_of_gives {m m' : Monitor B} {operation : Operation B} {answer : Answer}
    (h : Gives filter m operation.perform answer m') :
  operation.Answers filter m m' answer
  := by
  cases operation with
  | arm =>
    obtain ⟨reply, s, hreply, hpure⟩ := gives_bind.mp h
    obtain ⟨rfl, rfl⟩ := gives_pure.mp hpure
    apply Answers.arm hreply
  | prepareLaunch request =>
    obtain ⟨reply, s, hreply, hpure⟩ := gives_bind.mp h
    obtain ⟨rfl, rfl⟩ := gives_pure.mp hpure
    apply Answers.prepareLaunch hreply
  | trap frame =>
    obtain ⟨reply, s, hreply, hpure⟩ := gives_bind.mp h
    obtain ⟨rfl, rfl⟩ := gives_pure.mp hpure
    apply Answers.trap hreply
  | meanwhile machine line engine =>
    obtain ⟨reply, s, hreply, hpure⟩ := gives_bind.mp h
    obtain ⟨rfl, rfl⟩ := gives_pure.mp hpure
    apply Answers.meanwhile (gives_modify.mp hreply)

/-- A step that prepares a launch leaves the regions in force. -/
theorem Operation.installed_of_launches {m m' : Monitor B} {operation : Operation B}
    {context : LaunchContext} (h : Gives filter m operation.perform (.prepared (.ok context)) m') :
  ∃ regions, m'.installed = some regions
  := by
  cases answers_of_gives h with
  | prepareLaunch hprepare =>
    obtain ⟨regions, hinstalled, -⟩ := Monitor.exists_of_gives_prepareLaunch hprepare
    use regions

/-! ### A whole run -/

/-- A step performs its operation, and if it returns, the operations that are left are run
from the monitor that it leaves. -/
theorem Monitor.step_of_trace_eq {m : Monitor B} {operations : List (Operation B)}
    {before after : List (Step B)} {s : Step B}
    (h : m.trace filter operations = before ++ s :: after) :
  s.outcome = s.operation.perform.run filter s.before
    ∧ ∃ rest, after = match s.outcome.result with
      | .ok _ => s.outcome.state.trace filter rest
      | .error _ => []
  := by
  induction operations generalizing m before with
  | nil =>
    rw [trace] at h
    cases before <;> cases h
  | cons operation rest ih =>
    rw [trace] at h
    cases before with
    | nil =>
      rw [List.nil_append, List.cons.injEq] at h
      obtain ⟨rfl, rfl⟩ := h
      use rfl, rest
    | cons first before =>
      rw [List.cons_append, List.cons.injEq] at h
      obtain ⟨-, hrest⟩ := h
      cases hresult : (operation.perform.run filter m).result with
      | error why =>
        rw [hresult] at hrest
        cases before <;> cases hrest
      | ok answer =>
        rw [hresult] at hrest
        apply ih hrest

/-- A step that has an answer returns it. -/
theorem Monitor.gives_of_trace_eq {m : Monitor B} {operations : List (Operation B)}
    {before after : List (Step B)} {s : Step B}
    (h : m.trace filter operations = before ++ s :: after) {answer : Answer}
    (hresult : s.outcome.result = .ok answer) :
  Gives filter s.before s.operation.perform answer s.outcome.state
  := by
  obtain ⟨houtcome, -⟩ := step_of_trace_eq h
  rw [Gives, ← houtcome]
  exact ⟨hresult, rfl⟩

/-- The property of monitors is kept by every operation that returns. -/
def Monitor.Kept (filter : LogFilter) (P : Monitor B → Prop) : Prop :=
  ∀ (m m' : Monitor B) (operation : Operation B) (answer : Answer),
    P m → Gives filter m operation.perform answer m' → P m'

/-- What every operation keeps holds before each step of a run. -/
theorem Monitor.Kept.before_of_mem {P : Monitor B → Prop} (hP : Kept filter P) {m : Monitor B}
    (hm : P m) {operations : List (Operation B)} {s : Step B}
    (hs : s ∈ m.trace filter operations) :
  P s.before
  := by
  induction operations generalizing m with
  | nil => cases hs
  | cons operation rest ih =>
    rcases List.mem_cons.mp hs with rfl | hs
    · apply hm
    · cases hresult : (operation.perform.run filter m).result with
      | error why =>
        rw [hresult] at hs
        cases hs
      | ok answer =>
        rw [hresult] at hs
        apply ih (hP _ _ _ _ hm (gives_of_result_eq_ok hresult)) hs

/-- What every operation keeps and a step leaves holds before each later step. -/
theorem Monitor.Kept.before_of_mem_after {P : Monitor B → Prop} (hP : Kept filter P)
    {m : Monitor B} {operations : List (Operation B)} {before after : List (Step B)} {s : Step B}
    (h : m.trace filter operations = before ++ s :: after) (hs : P s.outcome.state)
    {later : Step B} (hlater : later ∈ after) :
  P later.before
  := by
  obtain ⟨-, rest, hafter⟩ := step_of_trace_eq h
  rw [hafter] at hlater
  split at hlater
  · apply hP.before_of_mem hs hlater
  · cases hlater

theorem Monitor.kept_evolves (m : Monitor B) :
  Kept filter m.Evolves
  := by
  rintro m' _ operation _ hm' ⟨-, rfl⟩
  apply hm'.trans (operation.run_perform filter m').1

theorem Monitor.kept_installed (regions : Installed) :
  Kept filter fun m : Monitor B => m.installed = some regions
  := by
  rintro m _ operation _ hm ⟨-, rfl⟩
  apply (operation.run_perform filter m).1.installed_eq hm

/-- Each step of a run performs its operation on a monitor into which the first one has
evolved, and which has its regions in force if a launch was prepared before. -/
theorem Monitor.trace_split {m : Monitor B} {operations : List (Operation B)}
    {before after : List (Step B)} {s : Step B}
    (h : m.trace filter operations = before ++ s :: after) :
  m.Evolves s.before ∧ s.outcome = s.operation.perform.run filter s.before
    ∧ ((∃ earlier ∈ before, earlier.Launches) → ∃ regions, s.before.installed = some regions)
  := by
  and_intros
  · apply m.kept_evolves.before_of_mem (.refl m)
    rw [h]
    apply List.mem_append_right before List.mem_cons_self
  · apply (step_of_trace_eq h).1
  · rintro ⟨earlier, hmem, context, hcontext⟩
    obtain ⟨first, between, rfl⟩ := List.append_of_mem hmem
    rw [List.append_assoc, List.cons_append] at h
    obtain ⟨regions, hregions⟩ := Operation.installed_of_launches (gives_of_trace_eq h hcontext)
    use regions
    apply (kept_installed regions).before_of_mem_after h hregions
    apply List.mem_append_right between List.mem_cons_self

end SandboxMonitor
