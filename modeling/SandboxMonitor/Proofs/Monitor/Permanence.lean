import SandboxMonitor.Proofs.Monitor.LaunchGate

/-!
# Regions in force stay in force

A monitor looks at its protection registers only while it is armed; from then on it trusts the
regions that it has noted.  It may: whatever the monitor is asked to do afterwards, and whatever
is written to the registers past it (`Monitor.Becomes`), the entries of the regions are locked
and keep their values, so the hart decides about an address of a region as before
(`Installed.InForce.decider?_eq`), and arming again answers the same regions without a write
(`Monitor.regions_permanent`).
-/

namespace SandboxMonitor

open SandboxMonitor.Action ProtectionBank

variable {B : Type} [ProtectionBank B]

/-! ### Decisions about the regions -/

/-- The code, the data and the peripheral of a layout are its regions. -/
theorem Layout.Rounded.mem_regions {l : Layout} {ws : Windows} (h : l.Rounded ws) {r : Region}
    (hr : r = ws.code ∨ r = ws.data ∨ ws.peripheral = some r) :
  r ∈ ws.regions
  := by
  rcases hr with rfl | rfl | hperipheral
  · apply List.mem_cons_self
  · apply h.data_mem_regions
  · rw [Windows.regions]
    apply List.mem_cons_of_mem
    apply List.mem_append_right
    apply Option.mem_toList.mpr hperipheral

/-- While regions are in force, the hart decides about an address of a region in one way only:
by the entry of the region, as the region allows. -/
theorem Installed.InForce.decider?_eq {regions : Installed} {b : B} (h : regions.InForce b)
    {i : Nat} (hi : i < regions.windows.regions.length) {a : Nat}
    (hholds : regions.windows.regions[i].Holds a) :
  decider? b a = some i
    ∧ ∀ kind, userMay b kind a = regions.windows.regions[i].permissions.allows kind
  := by
  obtain ⟨layout, hrounded⟩ := h.rounded
  obtain ⟨plan, hplan, -, hcarries⟩ := h.carries
  obtain ⟨hdecider, hentry⟩ := hcarries.decider?_eq (regions.windows.entries_of_plan hplan)
    hrounded.pairwise_regions hi hholds
  use hdecider
  intro kind
  rw [userMay, hdecider, ← Region.permissions_entry, ← hentry]

namespace Monitor

/-! ### What may happen to a monitor -/

/-- What a first monitor can become: its operations are carried out, whether they return or
stop, and entries are written past it. -/
inductive Becomes (first : Monitor B) : Monitor B → Prop where
  | first : Becomes first first
  | performed {m : Monitor B} (h : Becomes first m) (filter : LogFilter)
      (operation : Operation B) (hlocks : operation.RespectsLocks m) :
      Becomes first (operation.perform.run filter m).state
  | written {m : Monitor B} (h : Becomes first m) (filter : LogFilter) (index : Nat) (e : Entry) :
      Becomes first ((onMachine (Machine.onBank (writeEntry index e))).run filter m).state

variable [LockRespecting B] {filter : LogFilter} {first m m' : Monitor B} {regions : Installed}

/-- A write past the monitor changes no entry that is locked. -/
theorem locksKept_writeEntry (filter : LogFilter) (m : Monitor B) (index : Nat) (e : Entry) :
  LocksKept m.desk.machine.bank
    ((onMachine (Machine.onBank (writeEntry index e))).run filter m).state.desk.machine.bank
  := locksKept_write m.desk.machine.bank index e

/-- Whatever a monitor becomes whose regions are in force, they are in force. -/
theorem Becomes.guarded (h : first.Becomes m) (hfirst : first.Guarded) :
  m.Guarded
  := by
  induction h with
  | first => apply hfirst
  | performed _ filter operation hlocks ih => apply ih.run_perform filter hlocks
  | @written m _ filter index e ih =>
    apply ih.congr
    · rfl
    · apply locksKept_writeEntry

omit [LockRespecting B] in
/-- It notes no other regions. -/
theorem Becomes.installed_eq (h : first.Becomes m) (hfirst : first.installed = some regions) :
  m.installed = some regions
  := by
  induction h with
  | first => apply hfirst
  | @performed m _ filter operation _ ih =>
    apply (operation.run_perform filter m).1.installed_eq ih
  | written _ _ _ _ ih => apply ih

variable {machine : Machine B} {line : SerialLine} {engine : Engine} {config : Config}
  {s : Monitor B} {events : List Event}

/-- Where the hart respects locks, regions are in force for good.  Once a monitor has been
armed, then whatever it becomes, the first entries hold the plan of its regions; about each
byte of the code, the data or the peripheral the same entry decides, and as the region allows;
and as long as the monitor is privileged, arming answers the same regions and does nothing. -/
theorem regions_permanent (h : (ofConfig machine line engine config).Becomes m)
    (harm : arm.run filter m = ⟨.ok (.ok regions), m', events⟩) (hlater : m'.Becomes s) :
  (∃ plan, regions.windows.plan = .ok plan ∧ regions.entries = plan.size
      ∧ Carries m'.desk.machine.bank plan ∧ Carries s.desk.machine.bank plan)
    ∧ (∀ r, r = regions.windows.code ∨ r = regions.windows.data
        ∨ regions.windows.peripheral = some r → ∀ a, r.Holds a →
      decider? s.desk.machine.bank a = decider? m'.desk.machine.bank a
        ∧ ∀ kind, userMay s.desk.machine.bank kind a = userMay m'.desk.machine.bank kind a
          ∧ userMay s.desk.machine.bank kind a = r.permissions.allows kind)
    ∧ (s.phase = .privileged → ∀ filter, arm.run filter s = ⟨.ok (.ok regions), s, []⟩)
  := by
  have hfresh : (ofConfig machine line engine config).Guarded := by
    intro _ hregions
    cases hregions
  have harmed := (h.guarded hfresh).run_arm filter
  rw [harm] at harmed
  have hinstalled : m'.installed = some regions :=
    installed_of_gives_arm ⟨congrArg Outcome.result harm, congrArg Outcome.state harm⟩
  have hlasting := hlater.installed_eq hinstalled
  have hbefore := harmed regions hinstalled
  have hafter := hlater.guarded harmed regions hlasting
  obtain ⟨layout, hrounded⟩ := hbefore.rounded
  and_intros
  · obtain ⟨plan, hplan, hsize, hcarries⟩ := hbefore.carries
    obtain ⟨plan', hplan', -, hcarries'⟩ := hafter.carries
    rw [hplan] at hplan'
    cases hplan'
    exact ⟨plan, hplan, hsize, hcarries, hcarries'⟩
  · intro r hr a hholds
    obtain ⟨i, hi, rfl⟩ := List.getElem_of_mem (hrounded.mem_regions hr)
    obtain ⟨hdecided, hallowed⟩ := hbefore.decider?_eq hi hholds
    obtain ⟨hdecides, hallows⟩ := hafter.decider?_eq hi hholds
    rw [hdecides, hdecided]
    use rfl
    intro kind
    rw [hallows, hallowed]
    exact ⟨rfl, rfl⟩
  · intro hphase filter
    apply run_arm_of_installed filter hphase hlasting

/-- Two writes past an armed monitor, which would open the data to execution and close the
code, change nothing. -/
theorem regions_permanent_openedEntry :
  ∃ (m' s : Monitor RegisterBank) (regions : Installed),
    Gives .off (ofConfig calling ⟨[], false, false⟩ ⟨⟨[]⟩⟩ (.ofLayout .sample)) arm (.ok regions) m'
    ∧ m'.Becomes s
    ∧ s = ((onMachine (Machine.onBank (writeEntry 0 .zero))).run .off
        ((onMachine (Machine.onBank (writeEntry 1 ⟨0x1F, 0xFFFFFFFF⟩))).run .off m').state).state
    ∧ userMay s.desk.machine.bank .execute 0x80100000 = false
    ∧ userMay s.desk.machine.bank .execute 0x80000000 = true
    ∧ arm.run .off s = ⟨.ok (.ok regions), s, []⟩
  := by
  obtain ⟨m', regions, events, harm, hcode, hexecute, hdata, hfenced, hphase⟩ :
      ∃ m' regions events,
        arm.run .off (ofConfig calling ⟨[], false, false⟩ ⟨⟨[]⟩⟩ (.ofLayout .sample))
          = ⟨.ok (.ok regions), m', events⟩
        ∧ regions.windows.code.Holds 0x80000000
        ∧ regions.windows.code.permissions.allows .execute = true
        ∧ regions.windows.data.Holds 0x80100000
        ∧ regions.windows.data.permissions.allows .execute = false
        ∧ m'.phase = .privileged :=
    ⟨_, _, _, rfl, ⟨by decide, by decide⟩, rfl, ⟨by decide, by decide⟩, rfl, rfl⟩
  have hlater : m'.Becomes _ := (Becomes.first.written .off 1 ⟨0x1F, 0xFFFFFFFF⟩).written .off 0 .zero
  obtain ⟨-, hdecides, hagain⟩ := regions_permanent .first harm hlater
  refine ⟨m', _, regions, ?_, hlater, rfl, ?_, ?_, ?_⟩
  · exact ⟨congrArg Outcome.result harm, congrArg Outcome.state harm⟩
  · rw [((hdecides _ (.inr (.inl rfl)) _ hdata).2 .execute).2]
    apply hfenced
  · rw [((hdecides _ (.inl rfl) _ hcode).2 .execute).2]
    apply hexecute
  · apply hagain hphase

end Monitor

end SandboxMonitor
