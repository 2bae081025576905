import Mathlib.Tactic.ByContra
import SandboxMonitor.Monitor.Basic
import SandboxMonitor.Proofs.Protection.Isolation
import SandboxMonitor.Proofs.Service.Footprint

/-!
# Arming a monitor

`Monitor.ArmStep` and `Monitor.LaunchStep` list what arming a monitor and preparing a launch
can do; all that is said of them here is read off these lists.

The rules by which a monitor treats sandbox memory are its layout, the regions in force, the
service window and the delivery.  A monitor keeps to the same rules (`Monitor.Alike`) but for
one change: arming puts regions in force, and the service window becomes their data region
unless it was chosen.  `Monitor.Evolves` says that this is all that may have happened, and
`Monitor.run_arm` and `Monitor.run_prepareLaunch` that arming and launching do no more.
-/

namespace SandboxMonitor

namespace Monitor

open SandboxMonitor.Action

variable {B : Type}

/-- The monitor treats sandbox memory as before. -/
structure Alike (m m' : Monitor B) : Prop where
  layout : m'.layout = m.layout
  explicitWindow : m'.explicitWindow = m.explicitWindow
  installed : m'.installed = m.installed
  window : m'.desk.window = m.desk.window
  delivery : m'.desk.delivery = m.desk.delivery

theorem Alike.refl (m : Monitor B) :
  m.Alike m
  := ⟨rfl, rfl, rfl, rfl, rfl⟩

theorem Alike.trans {m m' m'' : Monitor B} (h : m.Alike m') (h' : m'.Alike m'') :
  m.Alike m''
  where
  layout := h'.layout.trans h.layout
  explicitWindow := h'.explicitWindow.trans h.explicitWindow
  installed := h'.installed.trans h.installed
  window := h'.window.trans h.window
  delivery := h'.delivery.trans h.delivery

/-- A change of phase is no change of rules. -/
theorem alike_withPhase (m : Monitor B) (phase : Phase) :
  m.Alike { m with phase }
  := ⟨rfl, rfl, rfl, rfl, rfl⟩

/-- The monitor has been armed: the regions of its layout are in force, and the service
window is one that was chosen inside the data region, or else the data region. -/
structure Arms (m m' : Monitor B) (regions : Installed) : Prop where
  fresh : m.installed = none
  windows : m.layout.windows = .ok regions.windows
  within : m.explicitWindow = true → m.desk.window.within regions.windows.data = true
  layout : m'.layout = m.layout
  explicitWindow : m'.explicitWindow = m.explicitWindow
  installed : m'.installed = some regions
  window : m'.desk.window
    = if m.explicitWindow then m.desk.window else .ofRegion regions.windows.data
  delivery : m'.desk.delivery = m.desk.delivery

/-- The monitor is as before, or has been armed. -/
inductive Evolves (m m' : Monitor B) : Prop where
  | alike (h : m.Alike m')
  | arms (regions : Installed) (h : m.Arms m' regions)

theorem Evolves.refl (m : Monitor B) :
  m.Evolves m
  := .alike (.refl m)

/-- Regions that are in force stay so. -/
theorem Evolves.installed_eq {m m' : Monitor B} (h : m.Evolves m') {regions : Installed}
    (hinstalled : m.installed = some regions) :
  m'.installed = some regions
  := by
  cases h with
  | alike h => apply h.installed.trans hinstalled
  | arms _ h =>
    have hfresh := h.fresh
    rw [hinstalled] at hfresh
    cases hfresh

theorem Arms.trans_alike {m m' m'' : Monitor B} {regions : Installed}
    (h : m.Arms m' regions) (h' : m'.Alike m'') :
  m.Arms m'' regions
  where
  fresh := h.fresh
  windows := h.windows
  within := h.within
  layout := h'.layout.trans h.layout
  explicitWindow := h'.explicitWindow.trans h.explicitWindow
  installed := h'.installed.trans h.installed
  window := h'.window.trans h.window
  delivery := h'.delivery.trans h.delivery

theorem Alike.trans_arms {m m' m'' : Monitor B} {regions : Installed} (h : m.Alike m')
    (h' : m'.Arms m'' regions) :
  m.Arms m'' regions
  where
  fresh := h.installed.symm.trans h'.fresh
  windows := by
    rw [← h.layout]
    apply h'.windows
  within := by
    rw [← h.explicitWindow, ← h.window]
    apply h'.within
  layout := h'.layout.trans h.layout
  explicitWindow := h'.explicitWindow.trans h.explicitWindow
  installed := h'.installed
  window := by
    rw [← h.explicitWindow, ← h.window]
    apply h'.window
  delivery := h'.delivery.trans h.delivery

theorem Evolves.trans {m m' m'' : Monitor B} (h : m.Evolves m') (h' : m'.Evolves m'') :
  m.Evolves m''
  := by
  cases h with
  | alike h =>
    cases h' with
    | alike h' => apply Evolves.alike (h.trans h')
    | arms regions h' => apply Evolves.arms regions (h.trans_arms h')
  | arms regions h =>
    cases h' with
    | alike h' => apply Evolves.arms regions (h.trans_alike h')
    | arms _ h' =>
      have hfresh := h'.fresh
      rw [h.installed] at hfresh
      cases hfresh

/-! ### Arming -/

section Arming

variable [ProtectionBank B] {allowed : UInt32 → UInt32 → Prop}

theorem confined_writeEntry (index : Nat) (e : Entry) :
  (writeEntry index e : Action B _).Confined (fun _ => True) (Event.RequestsOnly allowed)
  := by
  rw [writeEntry]
  apply Confined.bind
  · apply confined_emit
    trivial
  · intro _
    apply confined_modify
    intro _ _
    trivial

theorem confined_writeEntries (first : Nat) (es : List Entry) :
  (writeEntries first es : Action B _).Confined (fun _ => True) (Event.RequestsOnly allowed)
  := by
  induction es generalizing first with
  | nil => apply confined_pure
  | cons e rest ih =>
    apply Confined.bind (confined_writeEntry first e)
    intro _
    apply ih

theorem confined_sweep (first count : Nat) :
  (sweep first count : Action B _).Confined (fun _ => True) (Event.RequestsOnly allowed)
  := by
  induction count generalizing first with
  | zero => apply confined_pure
  | succ count ih =>
    apply Confined.bind
    · rw [clearStale]
      apply Confined.of_state
      intro b _
      dsimp only
      split
      · apply confined_pure
      · split
        · apply confined_log _ trivial
        · apply Confined.bind (confined_log _ trivial)
          intro _
          apply confined_writeEntry
    · intro _
      apply ih

theorem confined_install (plan : Plan) :
  (install plan : Action B _).Confined (fun _ => True) (Event.RequestsOnly allowed)
  := by
  rw [install]
  apply Confined.of_state
  intro b _
  cases ProtectionBank.refusal? b plan with
  | some e => apply confined_pure
  | none =>
    apply Confined.bind (confined_writeEntries 0 plan.entries)
    intro _
    apply Confined.of_state
    intro written _
    cases ProtectionBank.readback? written plan with
    | some e => apply confined_pure
    | none =>
      apply Confined.bind (confined_sweep _ _)
      intro _
      apply confined_pure

/-- An installation touches protection registers and nothing else. -/
theorem confined_installLayout (layout : Layout) :
  (installLayout layout : Action B _).Confined (fun _ => True) (Event.RequestsOnly allowed)
  := by
  rw [installLayout]
  cases layout.windows with
  | error e => apply confined_pure
  | ok ws =>
    obtain ⟨plan, hplan, -⟩ := ws.plan_eq_ok
    simp only [hplan]
    apply Confined.bind (confined_install plan)
    intro answer
    cases answer with
    | error e => apply confined_pure
    | ok u =>
      apply Confined.bind
      · rw [warnIfDegraded]
        cases ws.isolation with
        | split => apply confined_pure
        | degraded => apply confined_log _ trivial
      · intro _
        apply Confined.bind (confined_log _ trivial)
        intro _
        apply confined_pure

omit [ProtectionBank B] in
/-- A layout without faults, and a chosen window inside its data region. -/
theorem checkLayout_eq_ok {m : Monitor B} {ws : Windows} (h : m.checkLayout = .ok ())
    (hwindows : m.layout.windows = .ok ws) (hexplicit : m.explicitWindow = true) :
  m.desk.window.within ws.data = true
  := by
  rw [checkLayout, hwindows] at h
  simp only [hexplicit, Bool.true_and] at h
  by_contra hwithin
  simp [hwithin] at h

/-- The monitor with regions in force. -/
def adopted (m : Monitor B) (regions : Installed) : Monitor B :=
  { (if m.explicitWindow then m else m.withWindow (.ofRegion regions.windows.data)) with
    installed := some regions }

theorem run_adopt (allowed : UInt32 → UInt32 → Prop) (filter : LogFilter) (m : Monitor B)
    (regions : Installed) :
  ∃ events, (adopt regions).run filter m = ⟨.ok (), m.adopted regions, events⟩
    ∧ ∀ e ∈ events, e.RequestsOnly allowed
  := by
  have hconfined : (adopt regions : Action (Monitor B) _).Confined (fun _ => True)
      (Event.RequestsOnly allowed) := by
    have hmodify : ∀ f : Monitor B → Monitor B,
        (modify f).Confined (fun _ => True) (Event.RequestsOnly allowed) := by
      intro f
      apply confined_modify
      intro _ _
      trivial
    rw [adopt]
    apply Confined.bind (hmodify _)
    intro _
    apply Confined.bind (confined_gets _)
    intro _
    apply Confined.bind (confined_log _ trivial)
    intro _
    apply hmodify
  exact ⟨_, rfl, (hconfined filter m trivial).2⟩

omit [ProtectionBank B] in
theorem Alike.arms_adopted {m m' : Monitor B} (h : m.Alike m') {regions : Installed}
    (hfresh : m.installed = none) (hcheck : m.checkLayout = .ok ())
    (hwindows : m.layout.windows = .ok regions.windows) :
  m.Arms (m'.adopted regions) regions
  := by
  have hwithin := fun hexplicit => checkLayout_eq_ok hcheck hwindows hexplicit
  rw [adopted]
  cases hexplicit : m'.explicitWindow with
  | true =>
    have hexplicit' := h.explicitWindow.symm.trans hexplicit
    use hfresh, hwindows, hwithin, h.layout, h.explicitWindow, rfl
    · rw [hexplicit']
      apply h.window
    · apply h.delivery
  | false =>
    have hexplicit' := h.explicitWindow.symm.trans hexplicit
    use hfresh, hwindows, hwithin, h.layout, h.explicitWindow, rfl
    · rw [hexplicit']
      rfl
    · apply h.delivery

omit [ProtectionBank B] in
theorem phase_adopted (m : Monitor B) (regions : Installed) :
  (m.adopted regions).phase = m.phase
  := by
  rw [adopted]
  cases m.explicitWindow <;> rfl

/-- The monitor with other protection registers. -/
def withBank (m : Monitor B) (bank : B) : Monitor B :=
  { m with desk := { m.desk with machine := { m.desk.machine with bank } } }

omit [ProtectionBank B] in
theorem run_onBank {α : Type} (a : Action B α) (filter : LogFilter) (m : Monitor B) :
  (onMachine (Machine.onBank a)).run filter m
    = ⟨(a.run filter m.desk.machine.bank).result,
        m.withBank (a.run filter m.desk.machine.bank).state,
        (a.run filter m.desk.machine.bank).events⟩
  := rfl

/-- What arming does to a monitor. -/
inductive ArmStep (filter : LogFilter) (m : Monitor B) :
    Outcome (Monitor B) (Except LaunchError Installed) → Prop where
  /-- It is too late for it. -/
  | launched (hphase : m.phase ≠ .privileged) :
      ArmStep filter m ⟨.ok (.error .alreadyLaunched), m, []⟩
  /-- It has been done before. -/
  | armed {regions : Installed} (hphase : m.phase = .privileged)
      (hinstalled : m.installed = some regions) : ArmStep filter m ⟨.ok (.ok regions), m, []⟩
  /-- The layout or the service window is refused. -/
  | refused {e : LaunchError} (hphase : m.phase = .privileged) (hinstalled : m.installed = none)
      (hcheck : m.checkLayout = .error e) : ArmStep filter m ⟨.ok (.error e), m, []⟩
  /-- The installation fails. -/
  | fails {e : ProtectionError} {bank : B} {events : List Event} (hphase : m.phase = .privileged)
      (hinstalled : m.installed = none) (hcheck : m.checkLayout = .ok ())
      (hinstall : (installLayout m.layout).run filter m.desk.machine.bank
        = ⟨.ok (.error e), bank, events⟩) :
      ArmStep filter m ⟨.ok (.error (.protection e)), m.withBank bank, events⟩
  /-- The layout is installed, and its regions are in force from then on. -/
  | installs {regions : Installed} {bank : B} {events : List Event}
      (hphase : m.phase = .privileged) (hinstalled : m.installed = none)
      (hcheck : m.checkLayout = .ok ())
      (hinstall : (installLayout m.layout).run filter m.desk.machine.bank
        = ⟨.ok (.ok regions), bank, events⟩) :
      ArmStep filter m ⟨.ok (.ok regions), (m.withBank bank).adopted regions,
        events ++ ((adopt regions).run filter (m.withBank bank)).events⟩

theorem arm_step {filter : LogFilter} {m : Monitor B}
    {outcome : Outcome (Monitor B) (Except LaunchError Installed)}
    (h : arm.run filter m = outcome) :
  ArmStep filter m outcome
  := by
  rw [← h, arm, run_bind]
  simp only [run_state]
  split
  · rename_i hphase
    apply ArmStep.launched hphase
  · rename_i hphase
    rw [ne_eq, not_not] at hphase
    cases hinstalled : m.installed with
    | some regions => apply ArmStep.armed hphase hinstalled
    | none =>
      cases hcheck : m.checkLayout with
      | error e => apply ArmStep.refused hphase hinstalled hcheck
      | ok u =>
        obtain ⟨answer, hanswer⟩ :=
          exists_result_installLayout filter m.desk.machine.bank m.layout
        simp only [run_bind, run_onBank]
        rcases hinstall : (installLayout m.layout).run filter m.desk.machine.bank with
          ⟨result, bank, events⟩
        rw [hinstall] at hanswer
        cases hanswer
        cases answer with
        | error e =>
          simp only [run_pure, List.nil_append, List.append_nil]
          apply ArmStep.fails hphase hinstalled hcheck hinstall
        | ok regions =>
          obtain ⟨later, hadopt, -⟩ := run_adopt (fun _ _ => True) filter (m.withBank bank) regions
          have hinstalls := ArmStep.installs hphase hinstalled hcheck hinstall
          simp only [run_bind, hadopt, run_pure, List.nil_append, List.append_nil] at hinstalls ⊢
          apply hinstalls

/-- After a launch, arming is refused and changes nothing. -/
theorem run_arm_of_ne_privileged (filter : LogFilter) {m : Monitor B}
    (h : m.phase ≠ .privileged) :
  arm.run filter m = ⟨.ok (.error .alreadyLaunched), m, []⟩
  := by
  rw [arm, run_bind]
  simp only [run_state, if_pos h, run_pure, List.nil_append]

/-- A monitor that is armed already has nothing to do. -/
theorem run_arm_of_installed (filter : LogFilter) {m : Monitor B} {regions : Installed}
    (hphase : m.phase = .privileged) (hinstalled : m.installed = some regions) :
  arm.run filter m = ⟨.ok (.ok regions), m, []⟩
  := by
  rw [arm, run_bind]
  simp [hphase, hinstalled]

/-- Arming leaves the phase as it is. -/
theorem phase_run_arm (filter : LogFilter) (m : Monitor B) :
  (arm.run filter m).state.phase = m.phase
  := by
  generalize harm : arm.run filter m = outcome
  cases arm_step harm with
  | installs => apply phase_adopted
  | _ => rfl

/-- Arming requests no sandbox memory, and at most it puts the regions of the layout in
force. -/
theorem run_arm (allowed : UInt32 → UInt32 → Prop) (filter : LogFilter) (m : Monitor B) :
  m.Evolves (arm.run filter m).state ∧ ∀ e ∈ (arm.run filter m).events, e.RequestsOnly allowed
  := by
  have halike : ∀ bank, m.Alike (m.withBank bank) := fun _ => ⟨rfl, rfl, rfl, rfl, rfl⟩
  have hevents : ∀ e ∈ ((installLayout m.layout).run filter m.desk.machine.bank).events,
      e.RequestsOnly allowed := (confined_installLayout m.layout filter _ trivial).2
  generalize harm : arm.run filter m = outcome
  cases arm_step harm with
  | launched => use .refl m, List.forall_mem_nil _
  | armed => use .refl m, List.forall_mem_nil _
  | refused => use .refl m, List.forall_mem_nil _
  | fails _ _ _ hinstall =>
    rw [hinstall] at hevents
    use .alike (halike _), hevents
  | @installs regions bank _ _ hinstalled hcheck hinstall =>
    rw [hinstall] at hevents
    obtain ⟨hwindows, -⟩ := exists_of_installLayout_eq_ok (congrArg Outcome.result hinstall)
    obtain ⟨later, hadopt, hlater⟩ := run_adopt allowed filter (m.withBank bank) regions
    rw [hadopt]
    use .arms regions ((halike bank).arms_adopted hinstalled hcheck hwindows)
    apply List.forall_mem_append.mpr ⟨hevents, hlater⟩

/-- A monitor whose arming returns regions has these in force. -/
theorem installed_of_gives_arm {filter : LogFilter} {m m' : Monitor B} {regions : Installed}
    (h : Gives filter m arm (.ok regions) m') :
  m'.installed = some regions
  := by
  obtain ⟨hresult, rfl⟩ := h
  generalize harm : arm.run filter m = outcome at hresult
  cases arm_step harm with
  | launched => cases hresult
  | armed _ hinstalled =>
    cases hresult
    apply hinstalled
  | refused => cases hresult
  | fails => cases hresult
  | installs =>
    cases hresult
    rfl

/-! ### Preparing a launch -/

/-- What preparing a launch does to a monitor. -/
inductive LaunchStep (filter : LogFilter) (m : Monitor B) (request : LaunchRequest) :
    Outcome (Monitor B) (Except LaunchError LaunchContext) → Prop where
  /-- The monitor cannot be armed. -/
  | unarmed {e : LaunchError} {m' : Monitor B} {events : List Event}
      (harm : arm.run filter m = ⟨.ok (.error e), m', events⟩) :
      LaunchStep filter m request ⟨.ok (.error e), m', events⟩
  /-- The regions in force do not allow the request. -/
  | unfit {regions : Installed} {e : LaunchError} {m' : Monitor B} {events : List Event}
      (harm : arm.run filter m = ⟨.ok (.ok regions), m', events⟩)
      (hcontext : LaunchContext.of regions request = .error e) :
      LaunchStep filter m request ⟨.ok (.error e), m', events⟩
  /-- The request is found good. -/
  | launches {regions : Installed} {context : LaunchContext} {m' : Monitor B}
      {events later : List Event} (harm : arm.run filter m = ⟨.ok (.ok regions), m', events⟩)
      (hcontext : LaunchContext.of regions request = .ok context)
      (hlater : ∀ e ∈ later, ∃ level message, e = .log level message) :
      LaunchStep filter m request
        ⟨.ok (.ok context), { m' with phase := .sandboxed }, events ++ later⟩

theorem prepareLaunch_step {filter : LogFilter} {m : Monitor B} {request : LaunchRequest}
    {outcome : Outcome (Monitor B) (Except LaunchError LaunchContext)}
    (h : (prepareLaunch request).run filter m = outcome) :
  LaunchStep filter m request outcome
  := by
  rw [← h, prepareLaunch, run_bind]
  rcases harm : arm.run filter m with ⟨result, m', events⟩
  cases result with
  | error why => cases arm_step harm
  | ok answer =>
    cases answer with
    | error e =>
      simp only [run_pure, List.append_nil]
      apply LaunchStep.unarmed harm
    | ok regions =>
      cases hcontext : LaunchContext.of regions request with
      | error e =>
        simp only [hcontext, run_pure, List.append_nil]
        apply LaunchStep.unfit harm hcontext
      | ok context =>
        simp only [hcontext, run_bind, run_log, setPhase, run_modify, run_pure, List.append_nil]
        apply LaunchStep.launches harm hcontext
        intro e he
        split at he
        · exact ⟨.info, _, List.mem_singleton.mp he⟩
        · cases he

theorem run_prepareLaunch_of_ne_privileged (filter : LogFilter) {m : Monitor B}
    (request : LaunchRequest) (h : m.phase ≠ .privileged) :
  (prepareLaunch request).run filter m = ⟨.ok (.error .alreadyLaunched), m, []⟩
  := by
  rw [prepareLaunch, run_bind, run_arm_of_ne_privileged filter h]
  rfl

/-- A launch that is prepared enters the sandbox from the privileged phase, and any other
attempt leaves the phase as it is. -/
theorem phase_of_gives_prepareLaunch {filter : LogFilter} {m m' : Monitor B}
    {request : LaunchRequest} {answer : Except LaunchError LaunchContext}
    (h : Gives filter m (prepareLaunch request) answer m') :
  ((∃ e, answer = .error e) ∧ m'.phase = m.phase)
    ∨ ((∃ context, answer = .ok context) ∧ m.phase = .privileged ∧ m'.phase = .sandboxed)
  := by
  obtain ⟨hresult, rfl⟩ := h
  have hphase := phase_run_arm filter m
  generalize hlaunch : (prepareLaunch request).run filter m = outcome at hresult
  cases prepareLaunch_step hlaunch with
  | @unarmed e _ _ harm =>
    cases hresult
    rw [harm] at hphase
    exact .inl ⟨⟨e, rfl⟩, hphase⟩
  | @unfit _ e _ _ harm =>
    cases hresult
    rw [harm] at hphase
    exact .inl ⟨⟨e, rfl⟩, hphase⟩
  | @launches _ context _ _ _ harm =>
    cases hresult
    refine .inr ⟨⟨context, rfl⟩, ?_, rfl⟩
    by_contra hlate
    rw [run_arm_of_ne_privileged filter hlate] at harm
    cases harm

/-- Preparing a launch requests no sandbox memory either. -/
theorem run_prepareLaunch (allowed : UInt32 → UInt32 → Prop) (filter : LogFilter)
    (m : Monitor B) (request : LaunchRequest) :
  m.Evolves ((prepareLaunch request).run filter m).state
    ∧ ∀ e ∈ ((prepareLaunch request).run filter m).events, e.RequestsOnly allowed
  := by
  obtain ⟨hevolves, hevents⟩ := run_arm allowed filter m
  generalize hlaunch : (prepareLaunch request).run filter m = outcome
  cases prepareLaunch_step hlaunch with
  | unarmed harm =>
    rw [harm] at hevolves hevents
    use hevolves, hevents
  | unfit harm =>
    rw [harm] at hevolves hevents
    use hevolves, hevents
  | launches harm _ hlater =>
    rw [harm] at hevolves hevents
    use hevolves.trans (.alike (alike_withPhase _ .sandboxed))
    apply List.forall_mem_append.mpr ⟨hevents, _⟩
    intro e he
    obtain ⟨level, message, rfl⟩ := hlater e he
    trivial

/-- A launch that is prepared has regions in force, and its request was checked against them. -/
theorem exists_of_gives_prepareLaunch {filter : LogFilter} {m m' : Monitor B}
    {request : LaunchRequest} {context : LaunchContext}
    (h : Gives filter m (prepareLaunch request) (.ok context) m') :
  ∃ regions, m'.installed = some regions ∧ LaunchContext.of regions request = .ok context
  := by
  obtain ⟨hresult, rfl⟩ := h
  generalize hlaunch : (prepareLaunch request).run filter m = outcome at hresult
  cases prepareLaunch_step hlaunch with
  | unarmed => cases hresult
  | unfit => cases hresult
  | @launches regions _ _ _ _ harm hcontext =>
    cases hresult
    have hinstalled := installed_of_gives_arm (gives_of_run_eq harm)
    use regions, hinstalled

end Arming

end Monitor

end SandboxMonitor
