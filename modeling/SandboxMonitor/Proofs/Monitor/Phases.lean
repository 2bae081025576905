import SandboxMonitor.Proofs.Monitor.MemorySafety

/-!
# The phases of a monitor

A monitor is privileged until it has launched the sandbox, and any trap may halt it; it is
trapped only while it answers a trap.  `Monitor.PhaseStep` lists what an operation that
returns does to the phase: it keeps it, launches, or halts.  So a run launches at most once,
what comes after a launch finds the way back closed, and what comes after a halt changes
nothing (`Monitor.phases_orderly`).
-/

namespace SandboxMonitor

open SandboxMonitor.Action

/-- Whether the answer is that a launch has been prepared. -/
def Answer.launches : Answer → Bool
  | .prepared (.ok _) => true
  | _ => false

/-- What is expected of a step that returns, as far as the phase of the monitor goes. -/
structure Step.Orderly {B : Type} (s : Step B) : Prop where
  /-- The monitor is not left in a trap. -/
  settled : s.outcome.state.phase ≠ .trapped
  /-- The sandbox is entered from the privileged phase, by a launch and by nothing else. -/
  launches_iff : s.Launches ↔ s.before.phase = .privileged ∧ s.outcome.state.phase = .sandboxed
  /-- There is no way back to the privileged phase. -/
  privileged : s.outcome.state.phase = .privileged → s.before.phase = .privileged
  /-- In the sandbox, the regions are in force. -/
  armed : s.outcome.state.phase = .sandboxed → ∃ regions, s.outcome.state.installed = some regions

/-- If the step is to arm the monitor or to launch, it is too late: it changes nothing. -/
structure Step.Refused {B : Type} (s : Step B) : Prop where
  arm : s.operation = .arm → s.outcome = ⟨.ok (.armed (.error .alreadyLaunched)), s.before, []⟩
  launch : ∀ request, s.operation = .prepareLaunch request →
    s.outcome = ⟨.ok (.prepared (.error .alreadyLaunched)), s.before, []⟩

/-- The step finds the monitor halted, leaves it so and, if it is a trap, touches nothing. -/
structure Step.Idles {B : Type} (s : Step B) : Prop where
  before : s.before.phase = .halted
  after : s.outcome.state.phase = .halted
  ignores : ∀ frame, s.operation = .trap frame →
    s.outcome = ⟨.ok (.trapped (.halt .alreadyHalted) frame), s.before, []⟩

namespace Monitor

variable {B : Type}

/-! ### One step -/

/-- How an operation changes the phase of a monitor, and what it answers then. -/
inductive PhaseStep (m m' : Monitor B) : Answer → Prop where
  | keeps {answer : Answer} (hphase : m'.phase = m.phase)
      (hanswer : answer.launches = false) : PhaseStep m m' answer
  | launches {context : LaunchContext} (hbefore : m.phase = .privileged)
      (hafter : m'.phase = .sandboxed) : PhaseStep m m' (.prepared (.ok context))
  | halts {fault : FatalFault} {frame : Registers} (hafter : m'.phase = .halted) :
      PhaseStep m m' (.trapped (.halt fault) frame)

/-- The monitor is not in a trap, and in the sandbox its regions are in force. -/
structure Settled (m : Monitor B) : Prop where
  phase : m.phase ≠ .trapped
  armed : m.phase = .sandboxed → ∃ regions, m.installed = some regions

variable [ProtectionBank B] {filter : LogFilter} {m m' : Monitor B}

theorem phaseStep_of_gives {operation : Operation B} {answer : Answer}
    (h : Gives filter m operation.perform answer m') :
  m.PhaseStep m' answer
  := by
  cases Operation.answers_of_gives h with
  | arm harm =>
    obtain ⟨-, rfl⟩ := harm
    apply PhaseStep.keeps (phase_run_arm filter m) rfl
  | prepareLaunch hlaunch =>
    rcases phase_of_gives_prepareLaunch hlaunch with
      ⟨⟨e, rfl⟩, hphase⟩ | ⟨⟨context, rfl⟩, hbefore, hafter⟩
    · apply PhaseStep.keeps hphase rfl
    · apply PhaseStep.launches hbefore hafter
  | trap htrap =>
    rcases phase_of_gives_handleTrap htrap with ⟨-, hphase⟩ | ⟨⟨fault, rfl⟩, hafter⟩
    · apply PhaseStep.keeps hphase rfl
    · apply PhaseStep.halts hafter
  | meanwhile hm' =>
    apply PhaseStep.keeps _ rfl
    rw [hm']

/-- Only a privileged monitor launches, and it is then in the sandbox. -/
theorem phase_of_launches {operation : Operation B} {context : LaunchContext}
    (h : Gives filter m operation.perform (.prepared (.ok context)) m') :
  m.phase = .privileged ∧ m'.phase = .sandboxed
  := by
  cases phaseStep_of_gives h with
  | keeps _ hanswer => cases hanswer
  | launches hbefore hafter => exact ⟨hbefore, hafter⟩

theorem kept_settled :
  Kept filter (Settled (B := B))
  := by
  intro m m' operation answer hm h
  cases phaseStep_of_gives h with
  | keeps hphase =>
    -- In the sandbox the regions were in force before, and no operation takes them back.
    constructor
    · rw [hphase]
      apply hm.phase
    · intro hsandboxed
      obtain ⟨regions, hregions⟩ := hm.armed (hphase.symm.trans hsandboxed)
      use regions
      apply kept_installed regions _ _ _ _ hregions h
  | launches _ hafter =>
    constructor
    · rw [hafter]
      decide
    · intro _
      apply Operation.installed_of_launches h
  | halts hafter =>
    constructor
    · rw [hafter]
      decide
    · intro hsandboxed
      rw [hafter] at hsandboxed
      cases hsandboxed

theorem kept_ne_privileged :
  Kept filter fun m : Monitor B => m.phase ≠ .privileged
  := by
  intro m m' operation answer hm h
  cases phaseStep_of_gives h with
  | keeps hphase =>
    rw [hphase]
    apply hm
  | launches hbefore => apply absurd hbefore hm
  | halts hafter =>
    rw [hafter]
    decide

theorem kept_halted :
  Kept filter fun m : Monitor B => m.phase = .halted
  := by
  intro m m' operation answer hm h
  cases phaseStep_of_gives h with
  | keeps hphase => apply hphase.trans hm
  | launches hbefore =>
    rw [hm] at hbefore
    cases hbefore
  | halts hafter => apply hafter

/-- A monitor that has halted carries out every operation and stays halted. -/
theorem exists_gives_of_halted (filter : LogFilter) (h : m.phase = .halted)
    (operation : Operation B) :
  ∃ answer m', Gives filter m operation.perform answer m' ∧ m'.phase = .halted
  := by
  have hlate : m.phase ≠ .privileged := by
    rw [h]
    decide
  obtain ⟨answer, hanswer⟩ : ∃ answer, (operation.perform.run filter m).result = .ok answer := by
    cases operation with
    | arm =>
      rw [Operation.perform, run_bind, run_arm_of_ne_privileged filter hlate]
      exact ⟨_, rfl⟩
    | prepareLaunch request =>
      rw [Operation.perform, run_bind, run_prepareLaunch_of_ne_privileged filter request hlate]
      exact ⟨_, rfl⟩
    | trap frame =>
      rw [Operation.perform, run_bind, run_handleTrap_of_halted filter frame h]
      exact ⟨_, rfl⟩
    | meanwhile machine line engine => exact ⟨_, rfl⟩
  have hgives := gives_of_result_eq_ok hanswer
  exact ⟨answer, _, hgives, kept_halted _ _ _ _ h hgives⟩

/-! ### A whole run -/

section Run

variable {operations : List (Operation B)} {before between after : List (Step B)} {s : Step B}

/-- A step that returns and starts from a settled monitor is orderly. -/
theorem Settled.orderly (hs : s.before.Settled) {answer : Answer}
    (hreturns : s.outcome.result = .ok answer)
    (hgives : Gives filter s.before s.operation.perform answer s.outcome.state) :
  s.Orderly
  := by
  have hsettled := kept_settled _ _ _ _ hs hgives
  constructor
  · apply hsettled.phase
  · constructor
    · rintro ⟨context, hcontext⟩
      rw [hreturns] at hcontext
      cases hcontext
      apply phase_of_launches hgives
    · rintro ⟨hbefore, hafter⟩
      cases phaseStep_of_gives hgives with
      | keeps hphase =>
        rw [hphase, hbefore] at hafter
        cases hafter
      | @launches context => exact ⟨context, hreturns⟩
      | halts hhalted =>
        rw [hhalted] at hafter
        cases hafter
  · intro hprivileged
    by_contra hlate
    apply kept_ne_privileged _ _ _ _ hlate hgives hprivileged
  · apply hsettled.armed

/-- Only the answer to a trap may stop. -/
theorem exists_trap_of_stops (houtcome : s.outcome = s.operation.perform.run filter s.before)
    {why : Stop} (hstops : s.outcome.result = .error why) :
  ∃ frame, s.operation = .trap frame
  := by
  rw [houtcome] at hstops
  cases hoperation : s.operation with
  | arm =>
    rw [hoperation, Operation.perform, run_bind] at hstops
    generalize harm : Monitor.arm.run filter s.before = outcome at hstops
    cases arm_step harm <;> cases hstops
  | prepareLaunch request =>
    rw [hoperation, Operation.perform, run_bind] at hstops
    generalize hlaunch : (Monitor.prepareLaunch request).run filter s.before = outcome at hstops
    cases prepareLaunch_step hlaunch <;> cases hstops
  | trap frame => use frame
  | meanwhile machine line engine =>
    rw [hoperation] at hstops
    cases hstops

/-- Outside the privileged phase, arming and launching are refused. -/
theorem refused_of_ne_privileged (hs : s.before.phase ≠ .privileged)
    (houtcome : s.outcome = s.operation.perform.run filter s.before) :
  s.Refused
  := by
  constructor
  · intro hoperation
    rw [houtcome, hoperation, Operation.perform, run_bind, run_arm_of_ne_privileged filter hs]
    rfl
  · intro request hoperation
    rw [houtcome, hoperation, Operation.perform, run_bind,
      run_prepareLaunch_of_ne_privileged filter request hs]
    rfl

/-- A step from a monitor that has halted idles. -/
theorem idles_of_halted (hs : s.before.phase = .halted)
    (houtcome : s.outcome = s.operation.perform.run filter s.before) :
  s.Idles
  := by
  constructor
  · apply hs
  · obtain ⟨_, _, ⟨-, rfl⟩, hafter⟩ := exists_gives_of_halted filter hs s.operation
    rw [houtcome]
    apply hafter
  · intro frame hoperation
    rw [houtcome, hoperation, Operation.perform, run_bind, run_handleTrap_of_halted filter frame hs]
    rfl

/-- Of two steps of a run, only one can have launched. -/
theorem not_launches_after {later : Step B}
    (h : m.trace filter operations = before ++ s :: (between ++ later :: after))
    (hs : s.Launches) :
  ¬ later.Launches
  := by
  -- The first of them leaves the privileged phase, and the later one would have to start in it.
  obtain ⟨context, hcontext⟩ := hs
  obtain ⟨-, hsandboxed⟩ := phase_of_launches (gives_of_trace_eq h hcontext)
  have hlate : later.before.phase ≠ .privileged := by
    apply kept_ne_privileged.before_of_mem_after h
    · rw [hsandboxed]
      decide
    · apply List.mem_append_right between List.mem_cons_self
  rintro ⟨context', hcontext'⟩
  have h' : m.trace filter operations = (before ++ s :: between) ++ later :: after := by
    rw [h, List.append_assoc, List.cons_append]
  obtain ⟨hprivileged, -⟩ := phase_of_launches (gives_of_trace_eq h' hcontext')
  apply hlate hprivileged

variable {machine : Machine B} {line : SerialLine} {engine : Engine} {config : Config}

/-- In every run, a step that returns is orderly, and only the answer to a trap may stop.
Outside the privileged phase arming and launching are refused, and there is no way back; a
step that launches is the only one of its run that does, and after a halt every step
idles. -/
theorem phases_orderly
    (h : (ofConfig machine line engine config).trace filter operations = before ++ s :: after) :
  (∀ answer, s.outcome.result = .ok answer → s.Orderly)
    ∧ (∀ why, s.outcome.result = .error why → ∃ frame, s.operation = .trap frame)
    ∧ (s.before.phase ≠ .privileged → s.Refused)
    ∧ (s.outcome.state.phase ≠ .privileged → ∀ later ∈ after, later.before.phase ≠ .privileged)
    ∧ (s.Launches → ∀ other ∈ before ++ after, ¬ other.Launches)
    ∧ (s.outcome.state.phase = .halted → ∀ later ∈ after, later.Idles)
  := by
  obtain ⟨houtcome, -⟩ := step_of_trace_eq h
  and_intros
  · intro answer hreturns
    apply Settled.orderly _ hreturns (gives_of_trace_eq h hreturns)
    have hmem : s ∈ (ofConfig machine line engine config).trace filter operations := by
      rw [h]
      apply List.mem_append_right before List.mem_cons_self
    apply kept_settled.before_of_mem _ hmem
    constructor
    · intro htrapped
      cases htrapped
    · intro hsandboxed
      cases hsandboxed
  · intro why hstops
    apply exists_trap_of_stops houtcome hstops
  · intro hlate
    apply refused_of_ne_privileged hlate houtcome
  · intro hlate later hlater
    apply kept_ne_privileged.before_of_mem_after h hlate hlater
  · intro hlaunches other hother hagain
    rcases List.mem_append.mp hother with hearlier | hlater
    · obtain ⟨first, between, rfl⟩ := List.append_of_mem hearlier
      rw [List.append_assoc, List.cons_append] at h
      apply not_launches_after h hagain hlaunches
    · obtain ⟨between, last, rfl⟩ := List.append_of_mem hlater
      apply not_launches_after h hlaunches hagain
  · intro hhalted later hlater
    have hbefore := kept_halted.before_of_mem_after h hhalted hlater
    obtain ⟨between, last, rfl⟩ := List.append_of_mem hlater
    rw [← List.cons_append, ← List.append_assoc] at h
    apply idles_of_halted hbefore (step_of_trace_eq h).1

end Run

/-- After a launch, a call that does not exist halts the monitor, and the next trap is not
answered. -/
theorem phases_orderly_unknownCall :
  ∃ first s last, (ofConfig calling ⟨[], false, false⟩ ⟨⟨[]⟩⟩ (.ofLayout .sample)).trace .off
      [.prepareLaunch ⟨0x80000000, 0x80100100, 0, 0⟩, .trap (Registers.zeros.set .a7 77),
        .trap .zeros] = [first] ++ s :: [last]
    ∧ first.Launches ∧ s.Orderly ∧ ¬ s.Launches ∧ s.outcome.state.phase = .halted ∧ last.Idles
  := by
  obtain ⟨first, s, last, htrace, hlaunches, hhalted, answer, hreturns⟩ : ∃ first s last,
      (ofConfig calling ⟨[], false, false⟩ ⟨⟨[]⟩⟩ (.ofLayout .sample)).trace .off
        [.prepareLaunch ⟨0x80000000, 0x80100100, 0, 0⟩, .trap (Registers.zeros.set .a7 77),
          .trap .zeros] = [first] ++ s :: [last]
      ∧ first.Launches ∧ s.outcome.state.phase = .halted
      ∧ ∃ answer, s.outcome.result = .ok answer :=
    ⟨_, _, _, rfl, ⟨_, rfl⟩, rfl, _, rfl⟩
  obtain ⟨horderly, -, -, -, honce, hidles⟩ := phases_orderly htrace
  use first, s, last, htrace, hlaunches, horderly answer hreturns
  and_intros
  · intro hagain
    apply honce hagain first List.mem_cons_self hlaunches
  · apply hhalted
  · apply hidles hhalted last (List.mem_singleton.mpr rfl)

end Monitor

end SandboxMonitor
