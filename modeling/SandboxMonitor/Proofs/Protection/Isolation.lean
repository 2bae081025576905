import SandboxMonitor.Proofs.Protection.Access
import SandboxMonitor.Proofs.Protection.Installation

/-!
# The sandbox is fenced in

A layout that has been installed grants user mode its regions and nothing else.  The plan of
a layout lists one entry for each of its regions (`Windows.regions`), which are apart from
each other; an installation that succeeds leaves these entries first and every other entry
off (`RegisterBank.grantsExactly_install`), so the hart decides as `Layout.Grants` says.
-/

namespace SandboxMonitor

/-! ### The regions of a plan -/

namespace Windows

/-- The regions that are granted, in the order of their entries. -/
def regions (ws : Windows) : List Region :=
  ws.code :: ((match ws.isolation with
    | .split => [ws.data]
    | .degraded => []) ++ ws.peripheral.toList)

/-- Every set of regions has a plan, with one entry for each of them. -/
theorem plan_eq_ok (ws : Windows) :
  ∃ plan, ws.plan = .ok plan ∧ plan.entries = ws.regions.map Region.entry
  := by
  obtain ⟨code, data, peripheral, isolation⟩ := ws
  cases isolation with
  | split => cases peripheral <;> exact ⟨_, rfl, rfl⟩
  | degraded => cases peripheral <;> exact ⟨_, rfl, rfl⟩

end Windows

theorem Region.overlaps_comm (r s : Region) :
  r.overlaps s = s.overlaps r
  := by
  rw [overlaps, overlaps, Bool.and_comm]

/-- The regions that a layout is given are apart from each other. -/
theorem Layout.Rounded.pairwise_regions {l : Layout} {ws : Windows} (h : l.Rounded ws) :
  ws.regions.Pairwise fun r s => r.overlaps s = false
  := by
  have hperipheral : ∀ r, ws.peripheral = some r →
      ws.code.overlaps r = false ∧ ws.data.overlaps r = false := by
    intro r hr
    have hapart := h.apart r hr
    rw [Windows.meets, Bool.or_eq_false_iff] at hapart
    rw [Region.overlaps_comm ws.code, Region.overlaps_comm ws.data]
    apply hapart
  rw [Windows.regions]
  cases hwindow : ws.peripheral with
  | none =>
    cases h.memory with
    | split _ _ hapart hisolation => simp [hisolation, hapart]
    | combined _ _ hisolation => simp [hisolation]
  | some r =>
    obtain ⟨hcode, hdata⟩ := hperipheral r hwindow
    cases h.memory with
    | split _ _ hapart hisolation => simp [hisolation, hapart, hcode, hdata]
    | combined _ _ hisolation => simp [hisolation, hcode]

/-! ### What a layout grants -/

/-- The accesses to code and data that a layout with the given regions allows: the code may
be read and executed, the data may be read and written, and one span for both may be used in
any way. -/
def Layout.GrantsMemory (ws : Windows) (kind : AccessKind) (a : Nat) : Layout → Prop
  | .split _ _ _ =>
    (ws.code.Holds a ∧ (kind = .read ∨ kind = .execute))
      ∨ (ws.data.Holds a ∧ (kind = .read ∨ kind = .write))
  | .combined _ _ => ws.code.Holds a

/-- The accesses that a layout with the given regions allows; the peripheral may be read and
written. -/
def Layout.Grants (l : Layout) (ws : Windows) (kind : AccessKind) (a : Nat) : Prop :=
  l.GrantsMemory ws kind a
    ∨ ∃ r, ws.peripheral = some r ∧ r.Holds a ∧ (kind = .read ∨ kind = .write)

/-- The windows for code and data that a layout asks for lie inside the given regions. -/
def Layout.MemoryInside (ws : Windows) : Layout → Prop
  | .split code data _ => code.Inside ws.code ∧ data.Inside ws.data
  | .combined span _ => span.Inside ws.code ∧ span.Inside ws.data

/-- The windows that a layout asks for lie inside the given regions. -/
def Layout.InsideRegions (l : Layout) (ws : Windows) : Prop :=
  l.MemoryInside ws ∧ Option.Rel Window.Inside l.peripheral ws.peripheral

theorem Permissions.allows_readExecute_iff (kind : AccessKind) :
  Permissions.readExecute.allows kind = true ↔ kind = .read ∨ kind = .execute
  := by
  cases kind <;> decide

theorem Permissions.allows_readWrite_iff (kind : AccessKind) :
  Permissions.readWrite.allows kind = true ↔ kind = .read ∨ kind = .write
  := by
  cases kind <;> decide

theorem Permissions.allows_all (kind : AccessKind) :
  Permissions.all.allows kind = true
  := by
  cases kind <;> rfl

/-- An optional peripheral has the rights to read and to write. -/
theorem PeripheralRounded.permissions_eq {p : Option Window} {q : Option Region}
    (h : PeripheralRounded p q) {r : Region} (hr : q = some r) :
  r.permissions = .readWrite
  := by
  cases h with
  | absent => cases hr
  | present hregion =>
    cases hr
    obtain ⟨-, hpermissions, -⟩ := Window.region_eq_ok hregion
    apply hpermissions

theorem PeripheralRounded.inside {p : Option Window} {q : Option Region}
    (h : PeripheralRounded p q) :
  Option.Rel Window.Inside p q
  := by
  cases h with
  | absent => apply Option.Rel.none
  | present hregion =>
    obtain ⟨hinside, -, -⟩ := Window.region_eq_ok hregion
    apply Option.Rel.some hinside

/-- What the regions of a layout grant by their rights is what the layout grants. -/
theorem Layout.Rounded.grants_iff {l : Layout} {ws : Windows} (h : l.Rounded ws)
    (kind : AccessKind) (a : Nat) :
  (∃ r ∈ ws.regions, r.Holds a ∧ r.permissions.allows kind = true) ↔ l.Grants ws kind a
  := by
  have hperipheral : (∃ r ∈ ws.peripheral, r.Holds a ∧ r.permissions.allows kind = true)
      ↔ ∃ r, ws.peripheral = some r ∧ r.Holds a ∧ (kind = .read ∨ kind = .write) := by
    apply exists_congr
    intro r
    apply and_congr_right
    intro hr
    rw [h.peripheral.permissions_eq hr, Permissions.allows_readWrite_iff]
  rw [Grants, ← hperipheral, Windows.regions]
  cases h.memory with
  | split hcode hdata _ hisolation =>
    obtain ⟨-, hcode, -⟩ := Window.region_eq_ok hcode
    obtain ⟨-, hdata, -⟩ := Window.region_eq_ok hdata
    simp [GrantsMemory, hisolation, hcode, hdata, Permissions.allows_readExecute_iff,
      Permissions.allows_readWrite_iff, or_assoc]
  | combined hspan _ hisolation =>
    obtain ⟨-, hspan, -⟩ := Window.region_eq_ok hspan
    simp [GrantsMemory, hisolation, hspan, Permissions.allows_all]

theorem Layout.Rounded.insideRegions {l : Layout} {ws : Windows} (h : l.Rounded ws) :
  l.InsideRegions ws
  := by
  constructor
  · cases h.memory with
    | split hcode hdata =>
      obtain ⟨hcode, -, -⟩ := Window.region_eq_ok hcode
      obtain ⟨hdata, -, -⟩ := Window.region_eq_ok hdata
      exact ⟨hcode, hdata⟩
    | combined hspan hsame =>
      obtain ⟨hspan, -, -⟩ := Window.region_eq_ok hspan
      rw [Layout.MemoryInside, hsame]
      exact ⟨hspan, hspan⟩
  · apply h.peripheral.inside

/-- Apart from each other, code and data leave no byte both writable and executable. -/
theorem Layout.Rounded.writeExclusive {code data : Window} {peripheral : Option Window}
    {ws : Windows} (h : (Layout.split code data peripheral).Rounded ws) (a : Nat) :
  ¬ ((Layout.split code data peripheral).Grants ws .write a
    ∧ (Layout.split code data peripheral).Grants ws .execute a)
  := by
  rintro ⟨hwrite, hexecute⟩
  simp only [Grants, GrantsMemory, reduceCtorEq, or_self, or_false, or_true, and_false,
    and_true, false_or, exists_false] at hwrite hexecute
  cases h.memory with
  | split _ _ hapart =>
    rcases hwrite with hdata | ⟨r, hr, hholds⟩
    · apply absurd hdata
      apply Region.not_holds_of_not_overlaps hapart hexecute
    · have hmeets := h.apart r hr
      rw [Windows.meets, Bool.or_eq_false_iff] at hmeets
      apply absurd hexecute
      apply Region.not_holds_of_not_overlaps hmeets.1 hholds

/-- Code and data apart, of which the data is not a block, and a peripheral. -/
def Layout.sample : Layout :=
  .split ⟨0x80000000, 0x1000⟩ ⟨0x80100000, 0x9000⟩ (some ⟨0x10000000, 0x100⟩)

/-! ### Installing a layout -/

section Install

variable {B : Type} [ProtectionBank B] {filter : LogFilter}

omit [ProtectionBank B] in
theorem run_warnIfDegraded (filter : LogFilter) (b : B) (ws : Windows) :
  ∃ events, (warnIfDegraded ws : Action B Unit).run filter b = ⟨.ok (), b, events⟩
  := by
  rw [warnIfDegraded]
  cases ws.isolation with
  | split => exact ⟨_, rfl⟩
  | degraded => exact ⟨_, rfl⟩

/-- An installation always answers. -/
theorem exists_result_install (filter : LogFilter) (b : B) (plan : Plan) :
  ∃ answer, ((install plan).run filter b).result = .ok answer
  := by
  rcases install_cases filter b plan with
    ⟨e, -, hrun⟩ | ⟨-, e, events, -, hrun⟩ | ⟨-, -, events, hrun⟩
  · use .error e
    rw [hrun]
  · use .error e
    rw [hrun]
  · use .ok ()
    rw [hrun]

theorem exists_result_installLayout (filter : LogFilter) (b : B) (layout : Layout) :
  ∃ answer, ((installLayout layout).run filter b).result = .ok answer
  := by
  rw [installLayout]
  cases layout.windows with
  | error e =>
    use .error e
    rfl
  | ok ws =>
    obtain ⟨plan, hplan, -⟩ := ws.plan_eq_ok
    obtain ⟨answer, hanswer⟩ := exists_result_install filter b plan
    simp only [hplan, Action.run_bind]
    rcases hrun : (install plan).run filter b with ⟨result, b', events⟩
    rw [hrun] at hanswer
    cases hanswer
    cases answer with
    | error e =>
      use .error e
      rfl
    | ok u =>
      obtain ⟨warnings, hwarn⟩ := run_warnIfDegraded filter b' ws
      simp only [Action.run_bind, hwarn, Action.run_log, Action.run_pure]
      exact ⟨_, rfl⟩

/-- A layout is installed when it has regions and their plan is installed. -/
theorem exists_of_installLayout_eq_ok {b : B} {layout : Layout} {installed : Installed}
    (h : ((installLayout layout).run filter b).result = .ok (.ok installed)) :
  layout.windows = .ok installed.windows ∧ ∃ plan, installed.windows.plan = .ok plan
    ∧ installed.entries = plan.size ∧ ((install plan).run filter b).result = .ok (.ok ())
    ∧ ((installLayout layout).run filter b).state = ((install plan).run filter b).state
  := by
  rw [installLayout] at h ⊢
  cases hwindows : layout.windows with
  | error e =>
    rw [hwindows] at h
    cases h
  | ok ws =>
    obtain ⟨plan, hplan, -⟩ := ws.plan_eq_ok
    simp only [hwindows, hplan, Action.run_bind] at h ⊢
    rcases hrun : (install plan).run filter b with ⟨result, b', events⟩
    rw [hrun] at h
    cases result with
    | error why => cases h
    | ok answer =>
      cases answer with
      | error e => cases h
      | ok u =>
        obtain ⟨warnings, hwarn⟩ := run_warnIfDegraded filter b' ws
        simp only [Action.run_bind, hwarn, Action.run_log, Action.run_pure] at h ⊢
        cases h
        use rfl, plan, hplan, rfl
        rw [hrun]
        exact ⟨rfl, rfl⟩

end Install

namespace RegisterBank

open ProtectionBank

variable {filter : LogFilter}

/-- The entries of the regions of a plan that was installed come first and nothing comes after
them. -/
theorem grantsExactly_install {b : RegisterBank} (hlocks : b.LocksOnly)
    (hcount : b.entryCount ≤ Plan.capacity)
    (hoff : ∀ i < b.entryCount, (b.entries i).isLocked = true → (b.entries i).mode = .off)
    {plan : Plan} {rs : List Region} (hplan : plan.entries = rs.map Region.entry)
    (h : ((install plan).run filter b).result = .ok (.ok ())) :
  GrantsExactly ((install plan).run filter b).state rs
  := by
  have honly := holdsOnly_install hlocks hcount hoff h
  have hlength : plan.entries.length = rs.length := by rw [hplan, List.length_map]
  constructor
  · apply hlength.symm.le.trans honly.fits
  · intro i hi
    rw [honly.held i (by omega)]
    simp [hplan]
  · intro i hlo
    apply honly.off i (by omega)

/-- Where only locks stop a write, and what is locked is off, an installed layout fences the
sandbox in: user mode may do what the layout grants and nothing else, every window that was
asked for is inside its region, and with code and data apart no byte is both writable and
executable. -/
theorem fenced_installLayout {b : RegisterBank} (hlocks : b.LocksOnly)
    (hcount : b.entryCount ≤ Plan.capacity)
    (hoff : ∀ i < b.entryCount, (b.entries i).isLocked = true → (b.entries i).mode = .off)
    {layout : Layout} {installed : Installed}
    (h : ((installLayout layout).run filter b).result = .ok (.ok installed)) :
  (∀ kind a, userMay ((installLayout layout).run filter b).state kind a = true
      ↔ layout.Grants installed.windows kind a)
    ∧ layout.InsideRegions installed.windows
    ∧ ∀ code data peripheral, layout = .split code data peripheral →
      ∀ a, ¬ (userMay ((installLayout layout).run filter b).state .write a = true
        ∧ userMay ((installLayout layout).run filter b).state .execute a = true)
  := by
  obtain ⟨hwindows, plan, hplan, -, hinstall, hstate⟩ := exists_of_installLayout_eq_ok h
  have hrounded := Layout.rounded_of_windows hwindows
  have hmap : ∀ kind a, userMay ((installLayout layout).run filter b).state kind a = true
      ↔ layout.Grants installed.windows kind a := by
    obtain ⟨plan', hplan', hentries⟩ := installed.windows.plan_eq_ok
    rw [hplan] at hplan'
    cases hplan'
    have hgrants := grantsExactly_install hlocks hcount hoff hentries hinstall
    intro kind a
    rw [hstate, hgrants.userMay_iff hrounded.pairwise_regions, hrounded.grants_iff]
  and_intros
  · apply hmap
  · apply hrounded.insideRegions.1
  · apply hrounded.insideRegions.2
  · rintro code data peripheral rfl a
    rw [hmap, hmap]
    apply hrounded.writeExclusive

/-- A bank that an earlier stage has left a span for every access in entry 5 and a lock in
entry 9. -/
def stale : RegisterBank := ((clear 16).put 5 ⟨0x1F, 0xFFFFFFFF⟩).put 9 ⟨0x80, 0⟩

/-- What an earlier stage left enabled is swept away. -/
theorem fenced_installLayout_stale :
  ∃ installed, ((installLayout .sample).run .off stale).result = .ok (.ok installed)
    ∧ ∀ kind a, userMay ((installLayout .sample).run .off stale).state kind a = true
      ↔ Layout.sample.Grants installed.windows kind a
  := by
  have hlocks : stale.LocksOnly := ⟨rfl, rfl, rfl⟩
  obtain ⟨installed, h⟩ : ∃ installed,
      ((installLayout .sample).run .off stale).result = .ok (.ok installed) := ⟨_, rfl⟩
  use installed, h
  apply (fenced_installLayout hlocks (by decide) (by decide) h).1

end RegisterBank

end SandboxMonitor
