import SandboxMonitor.Proofs.Monitor.Run

/-!
# The monitor stays in the data region

Whatever a monitor is asked to do, it requests sandbox memory only inside the data region
that is in force, provided that user mode does not call before a launch was prepared.  The
bound is kept in pieces: the service window follows the regions (`Monitor.rules_of_evolves`),
and a service has only what the window serves.
-/

namespace SandboxMonitor

/-! ### Windows and regions -/

/-- What a window inside a region serves is inside the region. -/
theorem DataWindow.Serves.inside {w : DataWindow} {r : Region} {addr length : UInt32}
    (h : w.Serves addr length) (hwithin : w.within r = true) :
  Window.Inside ⟨addr, length⟩ r
  := by
  obtain ⟨hadmits, -⟩ := h
  simp only [admits, within, Bool.and_eq_true, decide_eq_true_eq] at hadmits hwithin
  constructor
  · apply UInt32.le_trans hwithin.1 hadmits.1.2
  · apply Nat.le_trans hadmits.2 hwithin.2

theorem DataWindow.not_serves_empty (addr length : UInt32) :
  ¬ DataWindow.empty.Serves addr length
  := by
  rintro ⟨hadmits, hpositive⟩
  simp only [admits, Bool.and_eq_true, decide_eq_true_eq] at hadmits
  have hend : addr.toNat + length.toNat ≤ 0 := hadmits.2
  apply hpositive
  apply UInt32.toNat_inj.mp
  rw [UInt32.toNat_zero]
  omega

theorem DataWindow.within_ofRegion (r : Region) :
  (DataWindow.ofRegion r).within r = true
  := by
  simp [within, ofRegion]

/-- A buffer inside one region has no address of a region that does not overlap it. -/
theorem Window.Inside.not_holds {w : Window} {r s : Region} (h : w.Inside r)
    (hapart : s.overlaps r = false) {a : Nat} (hlo : w.base.toNat ≤ a)
    (hhi : a < w.base.toNat + w.length.toNat) :
  ¬ s.Holds a
  := by
  intro hholds
  apply Region.not_holds_of_not_overlaps hapart hholds
  constructor
  · apply Nat.le_trans (UInt32.le_iff_toNat_le.mp h.1) hlo
  · apply Nat.lt_of_lt_of_le hhi h.2

namespace Monitor

variable {B : Type} {machine : Machine B} {line : SerialLine} {engine : Engine}
  {config : Config} {m : Monitor B}

/-! ### The rules of a monitor that was made from a configuration -/

/-- Regions that are in force are those of the layout, and the service window is within their
data, or is the data region unless it was chosen. -/
theorem rules_of_evolves (h : (ofConfig machine line engine config).Evolves m)
    {regions : Installed} (hinstalled : m.installed = some regions) :
  config.layout.windows = .ok regions.windows
    ∧ m.desk.window.within regions.windows.data = true
    ∧ (config.window = none → m.desk.window = .ofRegion regions.windows.data)
  := by
  cases h with
  | alike h =>
    rw [h.installed] at hinstalled
    cases hinstalled
  | arms regions' h =>
    rw [h.installed] at hinstalled
    cases hinstalled
    have hwindow := h.window
    use h.windows
    cases hchosen : config.window with
    | some chosen =>
      have hexplicit : (ofConfig machine line engine config).explicitWindow = true := by
        simp [ofConfig, hchosen]
      rw [if_pos hexplicit] at hwindow
      constructor
      · rw [hwindow]
        apply h.within hexplicit
      · intro hnone
        cases hnone
    | none =>
      have hexplicit : ¬ (ofConfig machine line engine config).explicitWindow = true := by
        simp [ofConfig, hchosen]
      rw [if_neg hexplicit] at hwindow
      rw [hwindow]
      constructor
      · apply DataWindow.within_ofRegion
      · intro _
        rfl

/-- Before the monitor is armed, a service window that was not chosen is empty. -/
theorem window_eq_empty_of_evolves (h : (ofConfig machine line engine config).Evolves m)
    (hchosen : config.window = none) (hinstalled : m.installed = none) :
  m.desk.window = .empty
  := by
  cases h with
  | alike h =>
    apply h.window.trans
    simp [ofConfig, hchosen]
  | arms regions h =>
    rw [h.installed] at hinstalled
    cases hinstalled

/-! ### Safety -/

variable [ProtectionBank B] {filter : LogFilter}

/-- A step that requests a buffer answers a call, and the service window serves the buffer. -/
theorem serves_of_requests {operations : List (Operation B)} {before after : List (Step B)}
    {s : Step B} (h : m.trace filter operations = before ++ s :: after) {addr length : UInt32}
    (hrequests : s.Requests addr length) :
  s.IsUserCall ∧ s.before.desk.window.Serves addr length
  := by
  obtain ⟨-, houtcome, -⟩ := trace_split h
  have hevents := (s.operation.run_perform filter s.before).2
  rw [← houtcome] at hevents
  have hrequest : (∃ frame, s.operation = .trap frame) ∧ s.before.desk.machine.mcause = 8
      ∧ s.before.desk.window.Serves addr length := by
    rcases hrequests with hread | hwrite
    · apply hevents _ hread
    · apply hevents _ hwrite
  obtain ⟨htrap, hcause, hserves⟩ := hrequest
  exact ⟨⟨htrap, hcause⟩, hserves⟩

/-- Service memory is safe in every step of every run.  A step requests only buffers inside
the data region in force, unless it answers a call before a launch was prepared; with code
and data apart it does not write to the code.  The service window is within the data region
in force, and is that region unless it was chosen.  A monitor whose window was not chosen
requests nothing before it is armed. -/
theorem requests_inside_data {operations : List (Operation B)} {before after : List (Step B)}
    {s : Step B}
    (h : (ofConfig machine line engine config).trace filter operations = before ++ s :: after) :
  ((s.IsUserCall → ∃ earlier ∈ before, earlier.Launches) →
      ∀ addr length, s.Requests addr length →
        ∃ regions, s.before.installed = some regions
          ∧ Window.Inside ⟨addr, length⟩ regions.windows.data
          ∧ ∀ code data peripheral, config.layout = .split code data peripheral →
            s.Writes addr length →
              ∀ a, addr.toNat ≤ a → a < addr.toNat + length.toNat →
                ¬ regions.windows.code.Holds a)
    ∧ (∀ regions, s.outcome.state.installed = some regions →
      regions.windows.data.base ≤ s.outcome.state.desk.window.low
        ∧ s.outcome.state.desk.window.high ≤ regions.windows.data.stop
        ∧ (config.window = none →
          s.outcome.state.desk.window = .ofRegion regions.windows.data))
    ∧ (config.window = none → s.before.installed = none →
      ∀ addr length, ¬ s.Requests addr length)
  := by
  obtain ⟨hevolves, houtcome, hlaunched⟩ := trace_split h
  and_intros
  · intro hfollows addr length hrequests
    obtain ⟨hcall, hserves⟩ := serves_of_requests h hrequests
    obtain ⟨regions, hregions⟩ := hlaunched (hfollows hcall)
    obtain ⟨hwindows, hwithin, -⟩ := rules_of_evolves hevolves hregions
    have hinside := hserves.inside hwithin
    use regions, hregions, hinside
    intro code data peripheral hlayout _ a hlo hhi
    have hrounded := Layout.rounded_of_windows hwindows
    rw [hlayout] at hrounded
    cases hrounded.memory with
    | split _ _ hapart => apply hinside.not_holds hapart hlo hhi
  · intro regions hregions
    have hafter := hevolves.trans (s.operation.run_perform filter s.before).1
    rw [← houtcome] at hafter
    obtain ⟨-, hwithin, hfollows⟩ := rules_of_evolves hafter hregions
    rw [DataWindow.within, Bool.and_eq_true, decide_eq_true_eq, decide_eq_true_eq] at hwithin
    exact ⟨hwithin.1, hwithin.2, hfollows⟩
  · intro hchosen hfresh addr length hrequests
    obtain ⟨-, hserves⟩ := serves_of_requests h hrequests
    rw [window_eq_empty_of_evolves hevolves hchosen hfresh] at hserves
    apply DataWindow.not_serves_empty addr length hserves

/-- A hart that has taken a call from user mode at the start of the code. -/
def calling : Machine RegisterBank where
  bank := .clear 16
  counters := .silent
  memory := ⟨[.zeros 0x80000000 16, .zeros 0x80100000 64]⟩
  mcause := 8
  mepc := 0x80000000
  mtval := 0
  mpp := .user
  mie := false

/-- An inference on four bytes, after a launch was prepared, requests them. -/
theorem requests_inside_data_infer :
  ∃ before s, (ofConfig calling ⟨[], false, false⟩ ⟨⟨[]⟩⟩ (.ofLayout .sample)).trace .off
      [.prepareLaunch ⟨0x80000000, 0x80100100, 0, 0⟩,
        .trap (.ofList [0, 0, 0, 0, 0, 0, 0, 0, 0, 0, 0x80100000, 4])] = before ++ [s]
    ∧ s.IsUserCall ∧ s.Requests 0x80100000 4
    ∧ ∃ regions, s.before.installed = some regions
      ∧ Window.Inside ⟨0x80100000, 4⟩ regions.windows.data
  := by
  obtain ⟨first, s, htrace, hlaunches, hcall, hrequests⟩ :
      ∃ first s, (ofConfig calling ⟨[], false, false⟩ ⟨⟨[]⟩⟩ (.ofLayout .sample)).trace .off
        [.prepareLaunch ⟨0x80000000, 0x80100100, 0, 0⟩,
          .trap (.ofList [0, 0, 0, 0, 0, 0, 0, 0, 0, 0, 0x80100000, 4])] = [first] ++ [s]
        ∧ first.Launches ∧ s.IsUserCall ∧ s.Requests 0x80100000 4 := by
    exact ⟨_, _, rfl, ⟨_, rfl⟩, ⟨⟨_, rfl⟩, rfl⟩, .inl (.head _)⟩
  have hfollows : s.IsUserCall → ∃ earlier ∈ [first], earlier.Launches :=
    fun _ => ⟨first, List.mem_singleton.mpr rfl, hlaunches⟩
  obtain ⟨regions, hregions, hinside, -⟩ := (requests_inside_data htrace).1 hfollows _ _ hrequests
  use [first], s, htrace, hcall, hrequests, regions, hregions, hinside.1, hinside.2

end Monitor

end SandboxMonitor
