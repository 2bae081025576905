import SandboxMonitor.Proofs.Protection.Isolation

/-!
# Locked entries stay

On hardware that respects locks, a write changes no entry that is locked.  The entries of a
layout are all locked, so an installation that succeeds leaves the plan in the registers
(`ProtectionBank.carries_install`), and it stays there whatever is written afterwards
(`ProtectionBank.Carries.of_locksKept`).  Since the plan comes first and its regions are
apart, the hart decides about an address of a region by the entry of that region
(`Installed.InForce.userMayAll`).
-/

namespace SandboxMonitor

namespace ProtectionBank

/-- Hardware on which a write changes no entry that is locked. -/
class LockRespecting (B : Type) [ProtectionBank B] : Prop where
  entryCount_write : ∀ (b : B) (index : Nat) (e : Entry),
    entryCount (write b index e) = entryCount b
  entry_write : ∀ (b : B) (index : Nat) (e : Entry) (i : Nat),
    (entry b i).isLocked = true → entry (write b index e) i = entry b i

instance : LockRespecting RegisterBank where
  entryCount_write b index e := (b.agreeFrom_write index e).entryCount
  entry_write b index e i hlocked := by
    by_cases heq : i = index
    · subst heq
      apply congrArg (RegisterBank.entries · i) (b.write_of_isLocked e hlocked)
    · apply b.entries_write_of_ne e heq

variable {B : Type} [ProtectionBank B]

/-- Every entry that is locked in the first bank is the same in the second one. -/
structure LocksKept (b c : B) : Prop where
  entryCount : entryCount c = entryCount b
  entry : ∀ i, (entry b i).isLocked = true → entry c i = entry b i

theorem LocksKept.refl (b : B) :
  LocksKept b b
  := ⟨rfl, fun _ _ => rfl⟩

theorem LocksKept.trans {b c d : B} (h : LocksKept b c) (h' : LocksKept c d) :
  LocksKept b d
  where
  entryCount := h'.entryCount.trans h.entryCount
  entry i hlocked := by
    have hc := h.entry i hlocked
    rw [← hc] at hlocked
    apply (h'.entry i hlocked).trans hc

section LockRespecting

variable [LockRespecting B]

theorem locksKept_write (b : B) (index : Nat) (e : Entry) :
  LocksKept b (write b index e)
  := ⟨LockRespecting.entryCount_write b index e, LockRespecting.entry_write b index e⟩

theorem locksKept_written (b : B) (first : Nat) (es : List Entry) :
  LocksKept b (written b first es)
  := by
  induction es generalizing b first with
  | nil => apply LocksKept.refl
  | cons e rest ih => apply (locksKept_write b first e).trans (ih _ _)

theorem locksKept_cleared (b : B) (index : Nat) :
  LocksKept b (cleared b index)
  := by
  rw [cleared]
  split
  · apply LocksKept.refl
  · apply locksKept_write

theorem locksKept_swept (b : B) (first count : Nat) :
  LocksKept b (swept b first count)
  := by
  induction count generalizing b first with
  | zero => apply LocksKept.refl
  | succ count ih => apply (locksKept_cleared b first).trans (ih _ _)

end LockRespecting

/-! ### Plans in the registers -/

/-- The first entries of a bank are those of a plan. -/
structure Carries (b : B) (plan : Plan) : Prop where
  fits : plan.size ≤ entryCount b
  entries : ∀ i (h : i < plan.size), entry b i = plan.entries[i]

/-- A plan whose entries are locked stays in the registers. -/
theorem Carries.of_locksKept {b c : B} {plan : Plan} (h : Carries b plan)
    (hlocked : ∀ e ∈ plan.entries, e.isLocked = true) (hkept : LocksKept b c) :
  Carries c plan
  where
  fits := h.fits.trans hkept.entryCount.ge
  entries i hi := by
    rw [← h.entries i hi]
    apply hkept.entry
    rw [h.entries i hi]
    apply hlocked _ (List.getElem_mem hi)

/-- An installation that succeeds leaves the plan in the registers: it is read back, and the
sweep above it cannot change what is locked. -/
theorem carries_install [LockRespecting B] {filter : LogFilter} {b : B} {plan : Plan}
    (hlocked : ∀ e ∈ plan.entries, e.isLocked = true)
    (h : ((install plan).run filter b).result = .ok (.ok ())) :
  Carries ((install plan).run filter b).state plan
  := by
  obtain ⟨hrefusal, hreadback, events, hrun⟩ := run_install_of_ok filter h
  obtain ⟨hfits, -⟩ := refusal?_eq_none_iff.mp hrefusal
  have hwritten : Carries (written b 0 plan.entries) plan := by
    constructor
    · apply hfits.trans
      apply (Nat.min_le_left _ _).trans (locksKept_written b 0 plan.entries).entryCount.ge
    · apply readback?_eq_none_iff.mp hreadback
  rw [hrun]
  apply hwritten.of_locksKept hlocked (locksKept_swept _ _ _)

/-! ### Accesses to several bytes -/

/-- Whether user mode may make an access of some kind to the bytes from `first` up to `stop`:
one entry decides about each of them, and it allows the access. -/
def UserMayAll (b : B) (kind : AccessKind) (first stop : Nat) : Prop :=
  ∃ index, ∀ a, first ≤ a → a < stop →
    decider? b a = some index ∧ (entry b index).permissions.allows kind = true

/-- What user mode may do to several bytes, it may do to each of them. -/
theorem UserMayAll.userMay {b : B} {kind : AccessKind} {first stop a : Nat}
    (h : UserMayAll b kind first stop) (hlo : first ≤ a) (hhi : a < stop) :
  userMay b kind a = true
  := by
  obtain ⟨index, hdecides⟩ := h
  obtain ⟨hdecider, hallows⟩ := hdecides a hlo hhi
  rw [ProtectionBank.userMay, hdecider]
  apply hallows

/-- About an address of a region whose entry is among the first ones, and which is apart from
the others, that entry decides. -/
theorem Carries.decider?_eq {b : B} {plan : Plan} {rs : List Region} (h : Carries b plan)
    (hplan : plan.entries = rs.map Region.entry)
    (hapart : rs.Pairwise fun r s => r.overlaps s = false) {i : Nat} (hi : i < rs.length) {a : Nat}
    (hholds : rs[i].Holds a) :
  decider? b a = some i ∧ entry b i = rs[i].entry
  := by
  have hsize : plan.size = rs.length := by rw [Plan.size, hplan, List.length_map]
  have hentry : ∀ j (hj : j < rs.length), entry b j = rs[j].entry := by
    intro j hj
    rw [h.entries j (by omega)]
    simp [hplan]
  have hmatches : ∀ j (hj : j < rs.length), MatchesAt b a j ↔ rs[j].Holds a := by
    intro j hj
    rw [MatchesAt, hentry j hj, Region.matches_entry_iff]
  refine ⟨?_, hentry i hi⟩
  rw [decider?, List.find?_range_eq_some]
  and_intros
  · rw [decide_eq_true_eq, hmatches i hi]
    apply hholds
  · rw [List.mem_range]
    apply Nat.lt_of_lt_of_le hi (hsize.ge.trans h.fits)
  · intro j hj
    rw [Bool.not_eq_true', decide_eq_false_iff_not, hmatches j (hj.trans hi)]
    intro hearlier
    rw [List.pairwise_iff_getElem] at hapart
    apply Region.not_holds_of_not_overlaps (hapart j i _ hi hj) hearlier hholds

end ProtectionBank

open ProtectionBank

/-! ### Regions in force -/

theorem Windows.entries_of_plan (ws : Windows) {plan : Plan} (hplan : ws.plan = .ok plan) :
  plan.entries = ws.regions.map Region.entry
  := by
  obtain ⟨plan', hplan', hentries⟩ := ws.plan_eq_ok
  rw [hplan] at hplan'
  cases hplan'
  apply hentries

theorem PeripheralRounded.locked {p : Option Window} {q : Option Region}
    (h : PeripheralRounded p q) {r : Region} (hr : q = some r) :
  r.locked = true
  := by
  cases h with
  | absent => cases hr
  | present hregion =>
    cases hr
    obtain ⟨-, -, hlocked⟩ := Window.region_eq_ok hregion
    apply hlocked

/-- The regions that a layout is given are all locked. -/
theorem Layout.Rounded.locked {l : Layout} {ws : Windows} (h : l.Rounded ws) {r : Region}
    (hr : r ∈ ws.regions) :
  r.locked = true
  := by
  rw [Windows.regions] at hr
  cases h.memory with
  | split hcode hdata _ hisolation =>
    simp only [hisolation, List.mem_cons, List.cons_append, List.nil_append,
      Option.mem_toList] at hr
    rcases hr with rfl | rfl | hperipheral
    · apply (Window.region_eq_ok hcode).2.2
    · apply (Window.region_eq_ok hdata).2.2
    · apply h.peripheral.locked hperipheral
  | combined hspan _ hisolation =>
    simp only [hisolation, List.mem_cons, List.nil_append, Option.mem_toList] at hr
    rcases hr with rfl | hperipheral
    · apply (Window.region_eq_ok hspan).2.2
    · apply h.peripheral.locked hperipheral

/-- The entries of the regions of a layout are locked. -/
theorem Layout.Rounded.isLocked_plan {l : Layout} {ws : Windows} (h : l.Rounded ws) {plan : Plan}
    (hplan : ws.plan = .ok plan) :
  ∀ e ∈ plan.entries, e.isLocked = true
  := by
  rw [ws.entries_of_plan hplan, List.forall_mem_map]
  intro r hr
  rw [Region.isLocked_entry]
  apply h.locked hr

/-- The data of a layout is one of its regions. -/
theorem Layout.Rounded.data_mem_regions {l : Layout} {ws : Windows} (h : l.Rounded ws) :
  ws.data ∈ ws.regions
  := by
  rw [Windows.regions]
  cases h.memory with
  | split _ _ _ hisolation => simp [hisolation]
  | combined _ hsame => simp [hsame]

/-- The code may be executed. -/
theorem Layout.Rounded.code_allows {l : Layout} {ws : Windows} (h : l.Rounded ws) :
  ws.code.permissions.allows .execute = true
  := by
  cases h.memory with
  | split hcode =>
    rw [(Window.region_eq_ok hcode).2.1]
    rfl
  | combined hspan =>
    rw [(Window.region_eq_ok hspan).2.1]
    rfl

/-- The data may be read and written. -/
theorem Layout.Rounded.data_allows {l : Layout} {ws : Windows} (h : l.Rounded ws)
    {kind : AccessKind} (hkind : kind = .read ∨ kind = .write) :
  ws.data.permissions.allows kind = true
  := by
  cases h.memory with
  | split _ hdata =>
    rw [(Window.region_eq_ok hdata).2.1, Permissions.allows_readWrite_iff]
    apply hkind
  | combined hspan hsame =>
    rw [hsame, (Window.region_eq_ok hspan).2.1]
    apply Permissions.allows_all

/-- The regions are those of a layout, and a bank holds their plan. -/
structure Installed.InForce {B : Type} [ProtectionBank B] (regions : Installed) (b : B) :
    Prop where
  rounded : ∃ layout : Layout, layout.Rounded regions.windows
  carries : ∃ plan, regions.windows.plan = .ok plan ∧ regions.entries = plan.size ∧ Carries b plan

namespace Installed

variable {B : Type} [ProtectionBank B] {regions : Installed} {b c : B}

/-- Regions in force stay so as long as locked entries do. -/
theorem InForce.of_locksKept (h : regions.InForce b) (hkept : LocksKept b c) :
  regions.InForce c
  := by
  obtain ⟨layout, hrounded⟩ := h.rounded
  obtain ⟨plan, hplan, hsize, hcarries⟩ := h.carries
  use ⟨layout, hrounded⟩, plan, hplan, hsize
  apply hcarries.of_locksKept (hrounded.isLocked_plan hplan) hkept

/-- An installation that succeeds puts its regions in force. -/
theorem inForce_of_installLayout [LockRespecting B] {filter : LogFilter} {layout : Layout}
    (h : ((installLayout layout).run filter b).result = .ok (.ok regions)) :
  regions.InForce ((installLayout layout).run filter b).state
  := by
  obtain ⟨hwindows, plan, hplan, hsize, hinstall, hstate⟩ := exists_of_installLayout_eq_ok h
  have hrounded := Layout.rounded_of_windows hwindows
  use ⟨layout, hrounded⟩, plan, hplan, hsize
  rw [hstate]
  apply carries_install (hrounded.isLocked_plan hplan) hinstall

/-- User mode may access bytes inside a region in force as the region allows. -/
theorem InForce.userMayAll (h : regions.InForce b) {r : Region} (hr : r ∈ regions.windows.regions)
    {kind : AccessKind} (hallows : r.permissions.allows kind = true) {first stop : Nat}
    (hfirst : r.base.toNat ≤ first) (hstop : stop ≤ r.stop) :
  UserMayAll b kind first stop
  := by
  obtain ⟨layout, hrounded⟩ := h.rounded
  obtain ⟨plan, hplan, -, hcarries⟩ := h.carries
  have hentries := regions.windows.entries_of_plan hplan
  obtain ⟨i, hi, rfl⟩ := List.getElem_of_mem hr
  use i
  intro a hlo hhi
  obtain ⟨hdecider, hentry⟩ := hcarries.decider?_eq hentries hrounded.pairwise_regions hi
    ⟨hfirst.trans hlo, hhi.trans_le hstop⟩
  use hdecider
  rw [hentry, Region.permissions_entry]
  apply hallows

end Installed

end SandboxMonitor
