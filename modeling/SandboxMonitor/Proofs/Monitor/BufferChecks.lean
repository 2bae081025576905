import SandboxMonitor.Proofs.Monitor.LaunchGate

/-!
# Two checks of a buffer

A launch checks the sandbox's buffer against the data region (`Region.contains`), and a
service checks it against the data window (`DataWindow.check`).  Where the window is the
region, both speak of the same addresses, but the service also wants the end of the buffer to
be a 32-bit address.  So the two agree on every buffer except those that end with the address
space, which only the launch accepts (`Monitor.checks_agree_iff`).
-/

namespace SandboxMonitor

open SandboxMonitor.Action

/-! ### The bounds of a region -/

/-- A region contains the buffers that lie between its bounds. -/
theorem Region.contains_iff_bounds {r : Region} {ptr length : UInt32} :
  r.contains ptr length = true
    ↔ r.base.toNat ≤ ptr.toNat ∧ ptr.toNat + length.toNat ≤ r.stop
  := by
  rw [contains_iff, Window.Inside, UInt32.le_iff_toNat_le]

@[simp]
theorem DataWindow.low_ofRegion (r : Region) :
  (ofRegion r).low = r.base
  := rfl

@[simp]
theorem DataWindow.high_ofRegion (r : Region) :
  (ofRegion r).high = r.stop
  := rfl

/-- The window of a region accepts the buffers that the region contains, unless they end with
the address space. -/
theorem DataWindow.check_ofRegion_eq_ok_iff {r : Region} {ptr length : UInt32} :
  (ofRegion r).check ptr length = .ok ()
    ↔ r.contains ptr length = true ∧ ptr.toNat + length.toNat ≠ 2 ^ 32
  := by
  have hstop := r.stop_le
  rw [check_eq_ok_iff, Region.contains_iff_bounds]
  rw [admits, Bool.and_eq_true, Bool.and_eq_true, decide_eq_true_eq, decide_eq_true_eq,
    decide_eq_true_eq, UInt32.le_iff_toNat_le, low_ofRegion, high_ofRegion, UInt32.size]
  omega

/-! ### Buffers of a launch -/

namespace Monitor

variable {B : Type} [ProtectionBank B] {filter : LogFilter}

/-- A launch that is prepared has a buffer without bytes, or one that the data region in force
contains. -/
theorem contains_of_gives_prepareLaunch {m m' : Monitor B} {request : LaunchRequest}
    {context : LaunchContext} (h : Gives filter m (prepareLaunch request) (.ok context) m')
    (hpositive : request.bufferLength ≠ 0) :
  ∃ regions, m'.installed = some regions
    ∧ regions.windows.data.contains request.buffer request.bufferLength = true
  := by
  obtain ⟨regions, hinstalled, hcontext⟩ := exists_of_gives_prepareLaunch h
  use regions, hinstalled
  apply Region.contains_iff.mpr
  apply (LaunchContext.of_eq_ok_iff.mp hcontext).1.buffer hpositive

/-- A region contains what lies between its bounds, and its window accepts just these buffers
but for those that end with the address space.  So, when the service window follows the
regions, a service accepts the buffer of the launch unless it ends there. -/
theorem checks_agree_iff (filter : LogFilter) :
  (∀ (r : Region) (ptr length : UInt32),
      (r.contains ptr length = true
          ↔ r.base.toNat ≤ ptr.toNat ∧ ptr.toNat + length.toNat ≤ r.stop)
        ∧ ((DataWindow.ofRegion r).check ptr length = .ok ()
          ↔ r.contains ptr length = true ∧ ptr.toNat + length.toNat ≠ 2 ^ 32))
    ∧ ∀ (machine : Machine B) (line : SerialLine) (engine : Engine) (config : Config)
      (operations : List (Operation B)) (before after : List (Step B)) (s : Step B)
      (request : LaunchRequest), config.window = none →
      (ofConfig machine line engine config).trace filter operations = before ++ s :: after →
      s.operation = .prepareLaunch request → s.Launches → request.bufferLength ≠ 0 →
        ∀ later ∈ after,
          (later.before.desk.window.check request.buffer request.bufferLength = .ok ()
            ↔ request.buffer.toNat + request.bufferLength.toNat ≠ 2 ^ 32)
  := by
  constructor
  · intro r ptr length
    exact ⟨Region.contains_iff_bounds, DataWindow.check_ofRegion_eq_ok_iff⟩
  · intro machine line engine config operations before after s request hchosen h hoperation
      hlaunches hpositive later hlater
    obtain ⟨context, hcontext⟩ := hlaunches
    have hgives := gives_of_trace_eq h hcontext
    rw [hoperation] at hgives
    cases Operation.answers_of_gives hgives with
    | prepareLaunch hprepare =>
      obtain ⟨regions, hregions, hcontains⟩ := contains_of_gives_prepareLaunch hprepare hpositive
      have hinstalled := (kept_installed regions).before_of_mem_after h hregions hlater
      have hevolves : (ofConfig machine line engine config).Evolves later.before := by
        apply (kept_evolves _).before_of_mem (.refl _)
        rw [h]
        apply List.mem_append_right before (List.mem_cons_of_mem s hlater)
      obtain ⟨-, -, hfollows⟩ := rules_of_evolves hevolves hinstalled
      rw [hfollows hchosen, DataWindow.check_ofRegion_eq_ok_iff, hcontains]
      apply and_iff_right rfl

/-- The sample's code, and data at the end of the address space. -/
def topLayout : Layout := .split ⟨0x80000000, 0x1000⟩ ⟨0xFFFFF000, 0x1000⟩ none

/-- A service accepts the buffer of a launch that ends one byte before the address space. -/
theorem checks_agree_beforeLastByte :
  ∃ first s, (ofConfig calling ⟨[], false, false⟩ ⟨⟨[]⟩⟩ (.ofLayout topLayout)).trace .off
      [.prepareLaunch ⟨0x80000000, 0xFFFFF010, 0xFFFFFFF0, 15⟩, .trap .zeros] = [] ++ first :: [s]
    ∧ first.Launches ∧ s.before.desk.window.check 0xFFFFFFF0 15 = .ok ()
  := by
  obtain ⟨first, s, htrace, hoperation, hlaunches⟩ : ∃ first s,
      (ofConfig calling ⟨[], false, false⟩ ⟨⟨[]⟩⟩ (.ofLayout topLayout)).trace .off
        [.prepareLaunch ⟨0x80000000, 0xFFFFF010, 0xFFFFFFF0, 15⟩, .trap .zeros]
          = [] ++ first :: [s]
      ∧ first.operation = .prepareLaunch ⟨0x80000000, 0xFFFFF010, 0xFFFFFFF0, 15⟩
      ∧ first.Launches :=
    ⟨_, _, rfl, rfl, _, rfl⟩
  use first, s, htrace, hlaunches
  apply ((checks_agree_iff .off).2 _ _ _ _ _ _ _ _ _ rfl htrace hoperation hlaunches (by decide) s
    (List.mem_singleton.mpr rfl)).mpr
  decide

/-- A launch with a buffer at the end of the address space is prepared, since the data region
contains the buffer; the window of this region then rejects it. -/
theorem check_rejects_last_buffer :
  (∃ r, Region.covering 0xFFFFF000 0x1000 .readWrite true = .ok r
      ∧ r.contains 0xFFFFFFF0 16 = true
      ∧ r.base.toNat ≤ UInt32.toNat 0xFFFFFFF0
      ∧ UInt32.toNat 0xFFFFFFF0 + UInt32.toNat 16 ≤ r.stop
      ∧ (DataWindow.ofRegion r).check 0xFFFFFFF0 16 = .error (.outOfWindow 0xFFFFFFF0 16))
    ∧ ∃ first s, (ofConfig calling ⟨[], false, false⟩ ⟨⟨[]⟩⟩ (.ofLayout topLayout)).trace .off
        [.prepareLaunch ⟨0x80000000, 0xFFFFF010, 0xFFFFFFF0, 16⟩, .trap .zeros] = [first, s]
      ∧ first.Launches
      ∧ s.before.desk.window.check 0xFFFFFFF0 16 = .error (.outOfWindow 0xFFFFFFF0 16)
  := by
  constructor
  · exact ⟨_, rfl, rfl, by decide, by decide, rfl⟩
  · exact ⟨_, _, rfl, ⟨_, rfl⟩, rfl⟩

end Monitor

end SandboxMonitor
