import SandboxMonitor.Proofs.Monitor.LaunchGate

/-!
# Trying again

An attempt to launch that fails does not spoil the next one.  What is found wrong before the
first write leaves everything as it was (`Monitor.eq_of_precedesWrites`).  A request that is
turned away after that leaves the monitor armed and does no more, however often it is repeated
(`Monitor.run_mapM_prepareLaunch`), and an armed monitor answers a request as one that has to
be armed first (`Monitor.run_prepareLaunch_of_arm`).
-/

namespace SandboxMonitor

open SandboxMonitor.Action ProtectionBank

/-! ### What an attempt may fail with -/

/-- The error is found before the first write to a protection register. -/
inductive LaunchError.PrecedesWrites : LaunchError → Prop where
  | window : PrecedesWrites .serviceWindowOutsideData
  | protection {cause : ProtectionError}
      (h : ∀ index wrote read, cause ≠ .readback index wrote read) :
      PrecedesWrites (.protection cause)

/-- The error is the fault of the request. -/
inductive LaunchError.BlamesRequest : LaunchError → Prop where
  | entry (entry : UInt32) : BlamesRequest (.entryOutsideCode entry)
  | alignment (stackTop : UInt32) : BlamesRequest (.misalignedStack stackTop)
  | stack (stackTop : UInt32) : BlamesRequest (.stackOutsideData stackTop)
  | buffer (ptr length : UInt32) : BlamesRequest (.bufferOutsideData ptr length)

/-- The regions in force turn a request away by its own fault. -/
theorem LaunchContext.blamesRequest_of_eq_error {regions : Installed} {request : LaunchRequest}
    {e : LaunchError} (h : of regions request = .error e) :
  e.BlamesRequest
  := by
  rw [of] at h
  split at h
  · cases h
    apply LaunchError.BlamesRequest.entry
  · split at h
    · cases h
      apply LaunchError.BlamesRequest.alignment
    · split at h
      · cases h
        apply LaunchError.BlamesRequest.stack
      · split at h
        · cases h
          apply LaunchError.BlamesRequest.buffer
        · cases h

/-- An installation that fails before it is read back has done nothing. -/
theorem run_install_of_ne_readback {B : Type} [ProtectionBank B] {filter : LogFilter} {b b' : B}
    {plan : Plan} {e : ProtectionError} {events : List Event}
    (h : (install plan).run filter b = ⟨.ok (.error e), b', events⟩)
    (he : ∀ index wrote read, e ≠ .readback index wrote read) :
  b' = b ∧ events = []
  := by
  rcases install_cases filter b plan with
    ⟨_, -, hrun⟩ | ⟨-, _, _, hreadback, hrun⟩ | ⟨-, -, _, hrun⟩
  · rw [hrun] at h
    cases h
    exact ⟨rfl, rfl⟩
  · rw [hrun] at h
    cases h
    obtain ⟨⟨index, wrote⟩, -, rfl⟩ := Option.map_eq_some_iff.mp hreadback
    apply absurd rfl (he index wrote _)
  · rw [hrun] at h
    cases h

theorem run_installLayout_of_ne_readback {B : Type} [ProtectionBank B] {filter : LogFilter}
    {b b' : B} {layout : Layout} {e : ProtectionError} {events : List Event}
    (h : (installLayout layout).run filter b = ⟨.ok (.error e), b', events⟩)
    (he : ∀ index wrote read, e ≠ .readback index wrote read) :
  b' = b ∧ events = []
  := by
  rw [installLayout] at h
  cases hwindows : layout.windows with
  | error e' =>
    rw [hwindows] at h
    cases h
    exact ⟨rfl, rfl⟩
  | ok ws =>
    obtain ⟨plan, hplan, -⟩ := ws.plan_eq_ok
    simp only [hwindows, hplan, run_bind] at h
    rcases hrun : (install plan).run filter b with ⟨result, b'', earlier⟩
    rw [hrun] at h
    rcases result with why | e' | u
    · cases h
    · simp only [run_pure, List.append_nil] at h
      cases h
      apply run_install_of_ne_readback hrun he
    · obtain ⟨warnings, hwarn⟩ := run_warnIfDegraded filter b'' ws
      simp only [run_bind, hwarn] at h
      cases h

namespace Monitor

variable {B : Type} {m m' : Monitor B} {e : LaunchError} {events : List Event}

theorem cause_of_checkLayout_eq_error (h : m.checkLayout = .error e) :
  (∃ cause, e = .protection cause) ∨ e = .serviceWindowOutsideData
  := by
  rw [checkLayout] at h
  split at h
  · cases h
    exact .inl ⟨_, rfl⟩
  · split at h
    · cases h
      exact .inr rfl
    · cases h

variable [ProtectionBank B] {filter : LogFilter}

/-- A monitor that cannot be armed does not blame the request. -/
theorem not_blamesRequest_of_arm (h : arm.run filter m = ⟨.ok (.error e), m', events⟩) :
  ¬ e.BlamesRequest
  := by
  intro hblames
  cases arm_step h with
  | launched => cases hblames
  | refused _ _ hcheck =>
    rcases cause_of_checkLayout_eq_error hcheck with ⟨cause, rfl⟩ | rfl
    · cases hblames
    · cases hblames
  | fails => cases hblames

/-- Arming that fails before the first write has done nothing. -/
theorem eq_of_arm_of_precedesWrites (h : arm.run filter m = ⟨.ok (.error e), m', events⟩)
    (he : e.PrecedesWrites) :
  m' = m ∧ events = []
  := by
  cases arm_step h with
  | launched => exact ⟨rfl, rfl⟩
  | refused => exact ⟨rfl, rfl⟩
  | fails _ _ _ hinstall =>
    cases he with
    | protection hcause =>
      obtain ⟨rfl, rfl⟩ := run_installLayout_of_ne_readback hinstall hcause
      exact ⟨rfl, rfl⟩

/-- So has an attempt to launch. -/
theorem eq_of_prepareLaunch_of_precedesWrites {request : LaunchRequest}
    (h : (prepareLaunch request).run filter m = ⟨.ok (.error e), m', events⟩)
    (he : e.PrecedesWrites) :
  m' = m ∧ events = []
  := by
  cases prepareLaunch_step h with
  | unarmed harm => apply eq_of_arm_of_precedesWrites harm he
  | unfit _ hcontext => cases LaunchContext.blamesRequest_of_eq_error hcontext <;> cases he

/-! ### Repeated attempts -/

/-- A request that is turned away by its own fault leaves the monitor as arming leaves it. -/
theorem run_arm_of_blamesRequest {request : LaunchRequest}
    (h : (prepareLaunch request).run filter m = ⟨.ok (.error e), m', events⟩)
    (he : e.BlamesRequest) :
  ∃ regions, arm.run filter m = ⟨.ok (.ok regions), m', events⟩
  := by
  cases prepareLaunch_step h with
  | unarmed harm => apply absurd he (not_blamesRequest_of_arm harm)
  | @unfit regions _ _ _ harm => use regions

/-- Once a monitor has been armed, it is armed. -/
theorem run_arm_of_arm {regions : Installed}
    (h : arm.run filter m = ⟨.ok (.ok regions), m', events⟩) :
  arm.run filter m' = ⟨.ok (.ok regions), m', []⟩
  := by
  have hphase : m.phase = .privileged := by
    by_contra hlate
    rw [run_arm_of_ne_privileged filter hlate] at h
    cases h
  have hkept := phase_run_arm filter m
  rw [h] at hkept
  apply run_arm_of_installed filter (hkept.trans hphase)
  apply installed_of_gives_arm (gives_of_run_eq h)

/-- After it has been armed a monitor answers a request as if it still had to be. -/
theorem run_prepareLaunch_of_arm {regions : Installed}
    (h : arm.run filter m = ⟨.ok (.ok regions), m', events⟩) (request : LaunchRequest) :
  (prepareLaunch request).run filter m
    = ⟨((prepareLaunch request).run filter m').result,
        ((prepareLaunch request).run filter m').state,
        events ++ ((prepareLaunch request).run filter m').events⟩
  := by
  rw [prepareLaunch, run_bind, run_bind, h, run_arm_of_arm h]
  rfl

/-- Attempts that are made one after another. -/
theorem exists_of_run_mapM_cons {request : LaunchRequest} {rest : List LaunchRequest}
    {answers : List (Except LaunchError LaunchContext)}
    (h : ((request :: rest).mapM prepareLaunch).run filter m = ⟨.ok answers, m', events⟩) :
  ∃ answer others m₁ now later,
    (prepareLaunch request).run filter m = ⟨.ok answer, m₁, now⟩
      ∧ (rest.mapM prepareLaunch).run filter m₁ = ⟨.ok others, m', later⟩
      ∧ answers = answer :: others ∧ events = now ++ later
  := by
  rw [List.mapM_cons] at h
  obtain ⟨answer, m₁, now, later, hfirst, hothers, rfl⟩ := exists_of_run_bind_eq_ok h
  obtain ⟨others, m₂, next, last, hrest, hpure, rfl⟩ := exists_of_run_bind_eq_ok hothers
  cases hpure
  rw [List.append_nil]
  exact ⟨answer, others, m₁, now, next, hfirst, hrest, rfl, rfl⟩

/-- An armed monitor stays as it is however many requests it turns away. -/
theorem run_mapM_prepareLaunch {regions : Installed}
    (harmed : arm.run filter m = ⟨.ok (.ok regions), m, []⟩) (requests : List LaunchRequest)
    {answers : List (Except LaunchError LaunchContext)}
    (h : (requests.mapM prepareLaunch).run filter m = ⟨.ok answers, m', events⟩)
    (hfail : ∀ answer ∈ answers, ∃ e, answer = .error e ∧ e.BlamesRequest) :
  m' = m ∧ events = []
  := by
  induction requests generalizing answers m' events with
  | nil =>
    cases h
    exact ⟨rfl, rfl⟩
  | cons request rest ih =>
    obtain ⟨answer, others, m₁, now, later, hfirst, hrest, rfl, rfl⟩ :=
      exists_of_run_mapM_cons h
    rw [List.forall_mem_cons] at hfail
    obtain ⟨⟨e, rfl, he⟩, hfail⟩ := hfail
    obtain ⟨regions', harm⟩ := run_arm_of_blamesRequest hfirst he
    rw [harmed] at harm
    cases harm
    apply ih hrest hfail

/-- Failed attempts are harmless.  An error that is found before the first write has changed
nothing and recorded nothing.  Attempts that fail by the fault of their requests, however many,
do together what arming once does, and another request is then answered as if it were the
first. -/
theorem failed_attempts_harmless (filter : LogFilter) (m : Monitor B) :
  (∀ e m' events, e.PrecedesWrites →
      (arm.run filter m = ⟨.ok (.error e), m', events⟩
        ∨ ∃ request, (prepareLaunch request).run filter m = ⟨.ok (.error e), m', events⟩) →
      m' = m ∧ events = [])
    ∧ ∀ requests answers m' events, requests ≠ [] →
      (requests.mapM prepareLaunch).run filter m = ⟨.ok answers, m', events⟩ →
      (∀ answer ∈ answers, ∃ e, answer = .error e ∧ e.BlamesRequest) →
      (∃ regions, arm.run filter m = ⟨.ok (.ok regions), m', events⟩)
        ∧ ∀ request,
          ((prepareLaunch request).run filter m').result
              = ((prepareLaunch request).run filter m).result
            ∧ ((prepareLaunch request).run filter m').state
              = ((prepareLaunch request).run filter m).state
  := by
  constructor
  · rintro e m' events he (harm | ⟨request, hlaunch⟩)
    · apply eq_of_arm_of_precedesWrites harm he
    · apply eq_of_prepareLaunch_of_precedesWrites hlaunch he
  · intro requests answers m' events hsome hrun hfail
    cases requests with
    | nil => apply absurd rfl hsome
    | cons request rest =>
      obtain ⟨answer, others, m₁, now, later, hfirst, hrest, rfl, rfl⟩ :=
        exists_of_run_mapM_cons hrun
      rw [List.forall_mem_cons] at hfail
      obtain ⟨⟨e, rfl, he⟩, hfail⟩ := hfail
      -- The first attempt arms the monitor, and the others find it armed.
      obtain ⟨regions, harm⟩ := run_arm_of_blamesRequest hfirst he
      obtain ⟨rfl, rfl⟩ := run_mapM_prepareLaunch (run_arm_of_arm harm) rest hrest hfail
      rw [List.append_nil]
      use ⟨regions, harm⟩
      intro again
      rw [run_prepareLaunch_of_arm harm again]
      exact ⟨rfl, rfl⟩

/-- After an odd entry and a crooked stack, a good request is granted as it would have been at
once; and a service window outside the data is refused without a trace. -/
theorem failed_attempts_harmless_oddEntry :
  (∃ answers m' events,
      ([⟨0x80000001, 0x80100100, 0, 0⟩, ⟨0x80000000, 0x80100108, 0, 0⟩].mapM prepareLaunch).run .off
          (ofConfig calling ⟨[], false, false⟩ ⟨⟨[]⟩⟩ (.ofLayout .sample))
        = ⟨.ok answers, m', events⟩
      ∧ (∀ answer ∈ answers, ∃ e, answer = .error e ∧ e.BlamesRequest)
      ∧ events ≠ []
      ∧ ((prepareLaunch usualRequest).run .off m').result = .ok (.ok usualRequest.context))
    ∧ ∃ m' events,
      arm.run .off (ofConfig calling ⟨[], false, false⟩ ⟨⟨[]⟩⟩
          { Config.ofLayout .sample with window := some ⟨0x80000000, 0x80000010⟩ })
        = ⟨.ok (.error .serviceWindowOutsideData), m', events⟩
      ∧ events = []
  := by
  constructor
  · obtain ⟨answers, m', events, hrun, hanswers, hevents⟩ : ∃ answers m' events,
        ([⟨0x80000001, 0x80100100, 0, 0⟩, ⟨0x80000000, 0x80100108, 0, 0⟩].mapM prepareLaunch).run
            .off (ofConfig calling ⟨[], false, false⟩ ⟨⟨[]⟩⟩ (.ofLayout .sample))
          = ⟨.ok answers, m', events⟩
        ∧ answers = [.error (.entryOutsideCode 0x80000001), .error (.misalignedStack 0x80100108)]
        ∧ events ≠ [] :=
      ⟨_, _, _, rfl, rfl, List.cons_ne_nil _ _⟩
    have hfail : ∀ answer ∈ answers, ∃ e, answer = .error e ∧ e.BlamesRequest := by
      subst hanswers
      rw [List.forall_mem_cons, List.forall_mem_singleton]
      exact ⟨⟨_, rfl, .entry _⟩, _, rfl, .alignment _⟩
    obtain ⟨-, hagain⟩ := (failed_attempts_harmless .off _).2 _ _ _ _ (List.cons_ne_nil _ _) hrun hfail
    use answers, m', events, hrun, hfail, hevents
    rw [(hagain usualRequest).1]
    rfl
  · obtain ⟨m', events, hrun⟩ : ∃ m' events, arm.run .off
        (ofConfig calling ⟨[], false, false⟩ ⟨⟨[]⟩⟩
          { Config.ofLayout .sample with window := some ⟨0x80000000, 0x80000010⟩ })
        = ⟨.ok (.error .serviceWindowOutsideData), m', events⟩ := ⟨_, _, rfl⟩
    use m', events, hrun
    apply ((failed_attempts_harmless .off _).1 _ _ _ .window (.inl hrun)).2

end Monitor

end SandboxMonitor
