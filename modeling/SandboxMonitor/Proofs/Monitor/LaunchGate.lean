import SandboxMonitor.Proofs.Monitor.MemorySafety
import SandboxMonitor.Proofs.Protection.Locking

/-!
# The launch gate

The sandbox is entered only through a launch that was found good.  Where the hart respects
locks, a monitor that has regions in force has their plan in its registers, whatever was done
before (`Monitor.guarded_of_reachable`).  So what a launch checks against the regions is what
the hart then allows: user mode can fetch its first instruction, push onto its stack and use
its buffer (`Monitor.launch_gate`).
-/

namespace SandboxMonitor

open SandboxMonitor.Action ProtectionBank

/-! ### Requests -/

/-- A request that the regions do not allow: its entry is odd or not in the code, its stack is
not aligned or not in the data, or it has a buffer that is not in the data. -/
def LaunchRequest.Unfit (request : LaunchRequest) (ws : Windows) : Prop :=
  (request.entry.toNat % 2 = 1 ∨ ¬ Window.Inside ⟨request.entry, 2⟩ ws.code)
    ∨ (request.stackTop.toNat % 16 ≠ 0
      ∨ ¬ (ws.data.base.toNat < request.stackTop.toNat
        ∧ request.stackTop.toNat ≤ ws.data.stop))
    ∨ (request.bufferLength ≠ 0 ∧ ¬ Window.Inside ⟨request.buffer, request.bufferLength⟩ ws.data)

/-- A request that the regions allow. -/
structure LaunchRequest.Fits (request : LaunchRequest) (ws : Windows) : Prop where
  even : request.entry.toNat % 2 = 0
  entry : Window.Inside ⟨request.entry, 2⟩ ws.code
  aligned : request.stackTop.toNat % 16 = 0
  aboveBase : ws.data.base.toNat < request.stackTop.toNat
  belowStop : request.stackTop.toNat ≤ ws.data.stop
  buffer : request.bufferLength ≠ 0 → Window.Inside ⟨request.buffer, request.bufferLength⟩ ws.data

theorem LaunchRequest.unfit_iff {request : LaunchRequest} {ws : Windows} :
  request.Unfit ws ↔ ¬ request.Fits ws
  := by
  constructor
  · rintro hunfit ⟨heven, hentry, haligned, habove, hbelow, hbuffer⟩
    rcases hunfit with (hodd | hentry') | (haligned' | hstack) | ⟨hpositive, hbuffer'⟩
    · omega
    · apply hentry' hentry
    · apply haligned' haligned
    · apply hstack ⟨habove, hbelow⟩
    · apply hbuffer' (hbuffer hpositive)
  · intro h
    by_contra hfit
    rw [Unfit, not_or, not_or, not_or, not_or, not_not, not_not, not_not] at hfit
    obtain ⟨⟨heven, hentry⟩, ⟨haligned, habove, hbelow⟩, hbuffer⟩ := hfit
    apply h
    use by omega, hentry, haligned, habove, hbelow
    intro hpositive
    by_contra houtside
    apply hbuffer ⟨hpositive, houtside⟩

theorem Region.contains_iff {r : Region} {addr len : UInt32} :
  r.contains addr len = true ↔ Window.Inside ⟨addr, len⟩ r
  := by
  rw [contains, Bool.and_eq_true, decide_eq_true_eq, decide_eq_true_eq]
  rfl

/-- A region starts at a multiple of its least size. -/
theorem Region.base_mod_eight (r : Region) :
  r.base.toNat % 8 = 0
  := by
  obtain ⟨k, hlo, -, -, hbase⟩ := r.isBlock
  rw [Nat.one_shiftLeft] at hbase
  apply Nat.mod_eq_zero_of_dvd
  apply (Nat.pow_dvd_pow 2 hlo).trans (Nat.dvd_of_mod_eq_zero hbase)

theorem LaunchRequest.fits_iff {request : LaunchRequest} {ws : Windows} :
  request.Fits ws ↔ request.entersCode ws = true ∧ request.stackTop % 16 = 0
    ∧ request.stackInData ws = true ∧ request.bufferInData ws = true
  := by
  have heven : request.entry % 2 = 0 ↔ request.entry.toNat % 2 = 0 := by
    rw [← UInt32.toNat_inj, UInt32.toNat_mod]
    rfl
  have haligned : request.stackTop % 16 = 0 ↔ request.stackTop.toNat % 16 = 0 := by
    rw [← UInt32.toNat_inj, UInt32.toNat_mod]
    rfl
  simp only [entersCode, stackInData, bufferInData, Bool.and_eq_true, Bool.or_eq_true,
    decide_eq_true_eq, Region.contains_iff, UInt32.lt_iff_toNat_lt, heven, haligned]
  constructor
  · rintro ⟨heven, hentry, haligned, habove, hbelow, hbuffer⟩
    use ⟨heven, hentry⟩, haligned, ⟨habove, hbelow⟩
    apply Classical.or_iff_not_imp_left.mpr hbuffer
  · rintro ⟨⟨heven, hentry⟩, haligned, ⟨habove, hbelow⟩, hbuffer⟩
    use heven, hentry, haligned, habove, hbelow
    apply Classical.or_iff_not_imp_left.mp hbuffer

/-- What user mode starts with when a request is granted. -/
def LaunchRequest.context (request : LaunchRequest) : LaunchContext :=
  ⟨.user, request.entry, request.stackTop, request.buffer, request.bufferLength⟩

/-- A context is made for the requests that the regions allow. -/
theorem LaunchContext.of_eq_ok_iff {regions : Installed} {request : LaunchRequest}
    {context : LaunchContext} :
  of regions request = .ok context ↔ request.Fits regions.windows ∧ context = request.context
  := by
  rw [LaunchRequest.fits_iff, of]
  cases hentry : request.entersCode regions.windows with
  | false => simp
  | true =>
    by_cases haligned : request.stackTop % 16 = 0
    · cases hstack : request.stackInData regions.windows with
      | false => simp [haligned]
      | true =>
        cases hbuffer : request.bufferInData regions.windows with
        | false => simp [haligned]
        | true =>
          simp only [haligned, Bool.not_true, Bool.false_eq_true, if_false, ne_eq, not_true,
            Except.ok.injEq, true_and]
          apply eq_comm
    · simp [haligned]

variable {B : Type} [ProtectionBank B]

/-! ### Monitors that can come about -/

/-- The operation leaves the entries as they are that the monitor has locked. -/
def Operation.RespectsLocks (m : Monitor B) : Operation B → Prop
  | .meanwhile machine _ _ => LocksKept m.desk.machine.bank machine.bank
  | _ => True

namespace Monitor

/-- The monitors that a first one can become, whether its operations return or stop. -/
inductive Reachable (first : Monitor B) : Monitor B → Prop where
  | first : Reachable first first
  | performed {m : Monitor B} (h : Reachable first m) (filter : LogFilter)
      (operation : Operation B) (hlocks : operation.RespectsLocks m) :
      Reachable first (operation.perform.run filter m).state
  | launched {m : Monitor B} (h : Reachable first m) (filter : LogFilter)
      (request : LaunchRequest) : Reachable first ((launch request).run filter m).state
  | halted {m : Monitor B} (h : Reachable first m) (filter : LogFilter) :
      Reachable first ((halt : Action (Monitor B) Unit).run filter m).state

/-- The regions that the monitor takes to be in force are so. -/
def Guarded (m : Monitor B) : Prop :=
  ∀ regions, m.installed = some regions → regions.InForce m.desk.machine.bank

/-- The monitor when it enters the sandbox. -/
def entered (m : Monitor B) (context : LaunchContext) : Monitor B :=
  { m with desk := { m.desk with machine := { m.desk.machine with
    mepc := context.resume
    mpp := context.target } } }

/-- A launch that cannot be prepared is given up. -/
theorem run_launch_of_error {filter : LogFilter} {m m' : Monitor B} {request : LaunchRequest}
    {e : LaunchError} {events : List Event}
    (h : (prepareLaunch request).run filter m = ⟨.ok (.error e), m', events⟩) :
  (launch request).run filter m = ⟨.ok (.error e), m', events⟩
  := by
  rw [launch, run_bind, h]
  simp only [run_pure, List.append_nil]

/-- A launch that is prepared enters the sandbox. -/
theorem run_launch_of_ok {filter : LogFilter} {m m' : Monitor B} {request : LaunchRequest}
    {context : LaunchContext} {events : List Event}
    (h : (prepareLaunch request).run filter m = ⟨.ok (.ok context), m', events⟩) :
  ∃ later, (launch request).run filter m
    = ⟨.ok (.ok ⟨context.resume, context.target, context.stackTop, context.a0, context.a1⟩),
        m'.entered context, events ++ later⟩
  := by
  rw [launch, run_bind, h]
  exact ⟨_, rfl⟩

/-- A monitor that is armed checks a request against its regions. -/
theorem result_prepareLaunch_of_installed {filter : LogFilter} {m : Monitor B}
    {request : LaunchRequest} {regions : Installed} (hphase : m.phase = .privileged)
    (hinstalled : m.installed = some regions) :
  ((prepareLaunch request).run filter m).result = .ok (LaunchContext.of regions request)
  := by
  have hrun := run_arm_of_installed filter hphase hinstalled
  generalize hlaunch : (prepareLaunch request).run filter m = outcome
  cases prepareLaunch_step hlaunch with
  | unarmed harm =>
    rw [hrun] at harm
    cases harm
  | unfit harm hcontext =>
    rw [hrun] at harm
    cases harm
    rw [hcontext]
  | launches harm hcontext =>
    rw [hrun] at harm
    cases harm
    rw [hcontext]

/-! ### Regions stay in force -/

section Guarded

variable [LockRespecting B] {filter : LogFilter} {m m' : Monitor B}

omit [LockRespecting B] in
theorem Guarded.congr (h : m.Guarded) (hinstalled : m'.installed = m.installed)
    (hkept : LocksKept m.desk.machine.bank m'.desk.machine.bank) :
  m'.Guarded
  := by
  intro regions hregions
  apply (h regions (hinstalled.symm.trans hregions)).of_locksKept hkept

omit [ProtectionBank B] [LockRespecting B] in
theorem bank_adopted (m : Monitor B) (regions : Installed) :
  (m.adopted regions).desk.machine.bank = m.desk.machine.bank
  := by
  rw [adopted]
  cases m.explicitWindow <;> rfl

theorem Guarded.run_arm (h : m.Guarded) (filter : LogFilter) :
  (arm.run filter m).state.Guarded
  := by
  generalize harm : arm.run filter m = outcome
  cases arm_step harm with
  | launched => apply h
  | armed => apply h
  | refused => apply h
  | fails _ hfresh =>
    -- The registers may be torn, but there are no regions to be in force.
    intro regions hregions
    have hinstalled := hfresh.symm.trans hregions
    cases hinstalled
  | installs _ _ _ hinstall =>
    rintro _ ⟨rfl⟩
    rw [bank_adopted]
    have hforce := Installed.inForce_of_installLayout (congrArg Outcome.result hinstall)
    rw [hinstall] at hforce
    apply hforce

theorem Guarded.run_prepareLaunch (h : m.Guarded) (filter : LogFilter)
    (request : LaunchRequest) :
  ((prepareLaunch request).run filter m).state.Guarded
  := by
  have harmed := h.run_arm filter
  generalize hlaunch : (prepareLaunch request).run filter m = outcome
  cases prepareLaunch_step hlaunch with
  | unarmed harm =>
    rw [harm] at harmed
    apply harmed
  | unfit harm =>
    rw [harm] at harmed
    apply harmed
  | launches harm =>
    rw [harm] at harmed
    apply harmed.congr rfl (.refl _)

theorem Guarded.run_launch (h : m.Guarded) (filter : LogFilter) (request : LaunchRequest) :
  ((launch request).run filter m).state.Guarded
  := by
  have hprepared := h.run_prepareLaunch filter request
  generalize hlaunch : (prepareLaunch request).run filter m = outcome at hprepared
  cases prepareLaunch_step hlaunch with
  | unarmed =>
    rw [run_launch_of_error hlaunch]
    apply hprepared
  | unfit =>
    rw [run_launch_of_error hlaunch]
    apply hprepared
  | launches =>
    obtain ⟨later, hrun⟩ := run_launch_of_ok hlaunch
    rw [hrun]
    apply hprepared.congr rfl (.refl _)

theorem Guarded.run_perform (h : m.Guarded) (filter : LogFilter) {operation : Operation B}
    (hlocks : operation.RespectsLocks m) :
  (operation.perform.run filter m).state.Guarded
  := by
  cases operation with
  | arm =>
    apply (Confined.after (E := fun _ => True) (h.run_arm filter) (fun _ _ => trivial) _).1
    intro _
    apply confined_pure
  | prepareLaunch request =>
    have hprepared := h.run_prepareLaunch filter request
    apply (Confined.after (E := fun _ => True) hprepared (fun _ _ => trivial) _).1
    intro _
    apply confined_pure
  | trap frame =>
    -- Answering a trap never writes an entry, even when it stops halfway.
    obtain ⟨hsteady, -⟩ := Monitor.run_handleTrap filter m frame
    have hanswered : ((handleTrap frame).run filter m).state.Guarded := by
      apply h.congr hsteady.alike.installed
      rw [hsteady.bank]
      apply LocksKept.refl
    apply (Confined.after (E := fun _ => True) hanswered (fun _ _ => trivial) _).1
    intro _
    apply confined_pure
  | meanwhile machine line engine =>
    apply h.congr
    · rfl
    · apply hlocks

/-- Whatever a monitor that was made from a configuration has become, its regions are in
force. -/
theorem guarded_of_reachable {machine : Machine B} {line : SerialLine} {engine : Engine}
    {config : Config} (h : (ofConfig machine line engine config).Reachable m) :
  m.Guarded
  := by
  induction h with
  | first =>
    intro regions hregions
    cases hregions
  | performed _ filter operation hlocks ih => apply ih.run_perform filter hlocks
  | launched _ filter request ih => apply ih.run_launch filter request
  | halted _ filter ih => apply ih.congr rfl (.refl _)

end Guarded

/-! ### What a launch leads to -/

/-- The sandbox has been entered as was requested. -/
structure Entered (request : LaunchRequest) (start : UserStart) (m : Monitor B) : Prop where
  /-- The first entries are the plan of the regions that are installed. -/
  plan : ∃ regions plan, m.installed = some regions ∧ regions.windows.plan = .ok plan
    ∧ regions.entries = plan.size ∧ Carries m.desk.machine.bank plan
  mepc : m.desk.machine.mepc = request.entry
  mpp : m.desk.machine.mpp = .user
  start : start
    = ⟨request.entry, .user, request.stackTop, request.buffer, request.bufferLength⟩
  even : request.entry.toNat % 2 = 0
  /-- User mode can fetch the first two bytes at the entry. -/
  fetches : UserMayAll m.desk.machine.bank .execute request.entry.toNat
    (request.entry.toNat + 2)
  /-- It can push eight bytes onto its stack. -/
  pushes : 8 ≤ request.stackTop.toNat ∧ ∀ kind, kind = .read ∨ kind = .write →
    UserMayAll m.desk.machine.bank kind (request.stackTop.toNat - 8) request.stackTop.toNat
  /-- It can use its buffer. -/
  buffer : ∀ kind, kind = .read ∨ kind = .write →
    UserMayAll m.desk.machine.bank kind request.buffer.toNat
      (request.buffer.toNat + request.bufferLength.toNat)

section Entered

variable {regions : Installed} {request : LaunchRequest} {bank : B}

/-- User mode may use what lies inside the data region in force. -/
theorem userMayAll_data (h : regions.InForce bank) {kind : AccessKind}
    (hkind : kind = .read ∨ kind = .write) {first stop : Nat}
    (hfirst : regions.windows.data.base.toNat ≤ first)
    (hstop : stop ≤ regions.windows.data.stop) :
  UserMayAll bank kind first stop
  := by
  obtain ⟨layout, hrounded⟩ := h.rounded
  apply h.userMayAll hrounded.data_mem_regions (hrounded.data_allows hkind) hfirst hstop

/-- With the regions in force that a request fits, the sandbox is entered as requested. -/
theorem entered_of_fits {m : Monitor B} (hforce : regions.InForce m.desk.machine.bank)
    (hinstalled : m.installed = some regions) (hfits : request.Fits regions.windows) :
  Entered request
    ⟨request.entry, .user, request.stackTop, request.buffer, request.bufferLength⟩
    (m.entered request.context)
  := by
  obtain ⟨layout, hrounded⟩ := hforce.rounded
  obtain ⟨plan, hplan, hsize, hcarries⟩ := hforce.carries
  have hbase := regions.windows.data.base_mod_eight
  have haligned := hfits.aligned
  have habove := hfits.aboveBase
  constructor
  · exact ⟨regions, plan, hinstalled, hplan, hsize, hcarries⟩
  · rfl
  · rfl
  · rfl
  · apply hfits.even
  · apply hforce.userMayAll List.mem_cons_self hrounded.code_allows
    · apply UInt32.le_iff_toNat_le.mp hfits.entry.1
    · apply hfits.entry.2
  · use by omega
    intro kind hkind
    apply userMayAll_data hforce hkind (by omega) hfits.belowStop
  · intro kind hkind
    by_cases hempty : request.bufferLength = 0
    · use 0
      intro a hlo hhi
      rw [hempty, UInt32.toNat_zero] at hhi
      omega
    · obtain ⟨hlow, hhigh⟩ := hfits.buffer hempty
      apply userMayAll_data hforce hkind (UInt32.le_iff_toNat_le.mp hlow) hhigh

end Entered

variable [LockRespecting B] {filter : LogFilter} {m : Monitor B} {machine : Machine B}
  {line : SerialLine} {engine : Engine} {config : Config}

/-- Where the hart respects locks, a launch enters the sandbox only when it can be prepared,
and then as was requested.  While an armed monitor is privileged, a launch cannot be prepared
just when the request is unfit. -/
theorem launch_gate (h : (ofConfig machine line engine config).Reachable m)
    (request : LaunchRequest) :
  (∀ start, ((launch request).run filter m).result = .ok (.ok start) →
      (∃ context, ((prepareLaunch request).run filter m).result = .ok (.ok context))
        ∧ Entered request start ((launch request).run filter m).state)
    ∧ ∀ regions, m.phase = .privileged → m.installed = some regions →
      ((∃ e, ((prepareLaunch request).run filter m).result = .ok (.error e))
          ↔ request.Unfit regions.windows)
        ∧ ((∃ context, ((prepareLaunch request).run filter m).result = .ok (.ok context))
          ↔ ¬ request.Unfit regions.windows)
  := by
  constructor
  · intro start hstart
    have hguarded := (guarded_of_reachable h).run_arm filter
    generalize hlaunch : (prepareLaunch request).run filter m = outcome
    cases prepareLaunch_step hlaunch with
    | unarmed =>
      rw [run_launch_of_error hlaunch] at hstart
      cases hstart
    | unfit =>
      rw [run_launch_of_error hlaunch] at hstart
      cases hstart
    | @launches regions context m' _ _ harm hcontext =>
      obtain ⟨later, hrun⟩ := run_launch_of_ok hlaunch
      obtain ⟨hfits, rfl⟩ := LaunchContext.of_eq_ok_iff.mp hcontext
      have hinstalled : m'.installed = some regions :=
        installed_of_gives_arm ⟨congrArg Outcome.result harm, congrArg Outcome.state harm⟩
      rw [harm] at hguarded
      rw [hrun] at hstart ⊢
      cases hstart
      use ⟨_, rfl⟩
      apply entered_of_fits (m := { m' with phase := .sandboxed }) _ hinstalled hfits
      apply hguarded regions hinstalled
  · intro regions hphase hinstalled
    rw [result_prepareLaunch_of_installed hphase hinstalled, LaunchRequest.unfit_iff]
    cases hcontext : LaunchContext.of regions request with
    | error e =>
      have hunfit : ¬ request.Fits regions.windows := by
        intro hfits
        rw [LaunchContext.of_eq_ok_iff.mpr ⟨hfits, rfl⟩] at hcontext
        cases hcontext
      simp [hunfit]
    | ok context =>
      obtain ⟨hfits, -⟩ := LaunchContext.of_eq_ok_iff.mp hcontext
      simp [hfits]

/-- A request with a stack and a buffer of 16 bytes in the data. -/
def usualRequest : LaunchRequest := ⟨0x80000000, 0x80100100, 0x80100000, 16⟩

/-- An armed monitor enters the sandbox for a good request, after which user mode may write
the last byte of its buffer, and turns away an odd entry. -/
theorem launch_gate_usualRequest :
  ∃ m : Monitor RegisterBank,
    (ofConfig calling ⟨[], false, false⟩ ⟨⟨[]⟩⟩ (.ofLayout .sample)).Reachable m
    ∧ m.phase = .privileged ∧ m.installed.isSome = true
    ∧ (∃ start, ((launch usualRequest).run .off m).result = .ok (.ok start)
      ∧ Entered usualRequest start ((launch usualRequest).run .off m).state
      ∧ userMay ((launch usualRequest).run .off m).state.desk.machine.bank .write 0x8010000F
        = true)
    ∧ ∃ e, ((prepareLaunch ⟨0x80000001, 0x80100100, 0, 0⟩).run .off m).result = .ok (.error e)
  := by
  have hreachable : (ofConfig calling ⟨[], false, false⟩ ⟨⟨[]⟩⟩ (.ofLayout .sample)).Reachable
      (Operation.arm.perform.run .off
        (ofConfig calling ⟨[], false, false⟩ ⟨⟨[]⟩⟩ (.ofLayout .sample))).state :=
    .performed .first .off .arm trivial
  refine ⟨_, hreachable, rfl, rfl, ?_, ?_⟩
  · obtain ⟨start, hstart⟩ : ∃ start, ((launch usualRequest).run .off
        (Operation.arm.perform.run .off
          (ofConfig calling ⟨[], false, false⟩ ⟨⟨[]⟩⟩ (.ofLayout .sample))).state).result
        = .ok (.ok start) := ⟨_, rfl⟩
    obtain ⟨-, hentered⟩ := (launch_gate hreachable usualRequest).1 start hstart
    use start, hstart, hentered
    apply (hentered.buffer .write (.inr rfl)).userMay <;> decide
  · apply (((launch_gate hreachable _).2 _ rfl rfl).1).mpr
    left
    left
    rfl

end Monitor

end SandboxMonitor
