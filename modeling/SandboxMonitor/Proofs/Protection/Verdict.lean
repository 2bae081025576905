import Mathlib.Order.Bounds.Basic
import SandboxMonitor.Proofs.Action.Rules
import SandboxMonitor.Proofs.Protection.Atomicity

/-!
# What an installation proves

The hardware may drop writes and keep only some of their bits, so what an installation answers
rests on what it reads.  `ProtectionBank.Fails` lists why it fails: the plan is too long, one of
its entries is locked, or after the writes some entry does not read as it was written; of several
entries the lowest one is reported.  `RegisterBank.install_verdict` says that the installation
answers just so, and which registers it writes in each case: none, the plan upwards from the first
entry, or the plan and then zeros to the stale entries above it.
-/

namespace SandboxMonitor

open ProtectionBank

/-! ### Writes -/

/-- The pair of registers that an event writes, with the values asked for. -/
def Event.written? : Event → Option (Nat × Entry)
  | .protect index e => some (index, e)
  | _ => none

/-- The writes to protection registers, in the order in which they were made. -/
def Outcome.writes {σ α : Type} (o : Outcome σ α) : List (Nat × Entry) :=
  o.events.filterMap Event.written?

/-- The writes of a plan, upwards from the first entry. -/
def Plan.writes (plan : Plan) : List (Nat × Entry) := plan.entries.mapIdx Prod.mk

theorem Plan.filterMap_written? (plan : Plan) :
  (plan.entries.mapIdx fun i e => Event.protect i e).filterMap Event.written? = plan.writes
  := by
  rw [writes, List.mapIdx_eq_zipIdx_map, List.mapIdx_eq_zipIdx_map, List.filterMap_map,
    ← List.filterMap_eq_map]
  rfl

/-! ### Answers -/

namespace ProtectionBank

variable {B : Type} [ProtectionBank B] {b : B} {plan : Plan}

/-- Why an installation fails. -/
inductive Fails (b : B) (plan : Plan) : ProtectionError → Prop where
  /-- The plan has more entries than there are for it. -/
  | tooManyEntries (hlong : available b < plan.size) :
      Fails b plan (.tooManyEntries plan.size (available b))
  /-- The plan fits, but some of its entries are locked. -/
  | entryLocked {index : Nat} (hfits : plan.size ≤ available b)
      (hleast : IsLeast {i | i < plan.size ∧ (entry b i).isLocked = true} index) :
      Fails b plan (.entryLocked index)
  /-- The plan was written, but some entries do not read as they were written. -/
  | readback {index : Nat} {wrote : Entry} (hfits : plan.size ≤ available b)
      (hopen : ∀ i < plan.size, (entry b i).isLocked = false)
      (hleast : IsLeast {i | ∃ h : i < plan.size,
        entry (written b 0 plan.entries) i ≠ plan.entries[i]} index)
      (hwrote : plan.entries[index]? = some wrote) :
      Fails b plan (.readback index wrote (entry (written b 0 plan.entries) index))

/-- The entries above a plan that are to be cleared, upwards: those in reach of an installation
that are enabled and not locked. -/
def staleFrom (b : B) (first count : Nat) : List Nat :=
  (List.range' first count).filter fun i =>
    (entry b i).mode ≠ .off ∧ (entry b i).isLocked = false

/-! The first index from one on that has a property is that one, or it is the first from the next
one on. -/

theorem isLeast_from_self {P : Nat → Prop} {first count index : Nat} (h : P first) :
  IsLeast {i | first ≤ i ∧ i < first + (count + 1) ∧ P i} index ↔ first = index
  := by
  have hself : IsLeast {i | first ≤ i ∧ i < first + (count + 1) ∧ P i} first := by
    use ⟨Nat.le_refl _, by omega, h⟩
    rintro i ⟨hle, -⟩
    apply hle
  constructor
  · intro hleast
    apply hself.unique hleast
  · rintro rfl
    apply hself

theorem isLeast_from_succ {P : Nat → Prop} {first count index : Nat} (h : ¬ P first) :
  IsLeast {i | first ≤ i ∧ i < first + (count + 1) ∧ P i} index
    ↔ IsLeast {i | first + 1 ≤ i ∧ i < first + 1 + count ∧ P i} index
  := by
  have hsame : {i | first ≤ i ∧ i < first + (count + 1) ∧ P i}
      = {i | first + 1 ≤ i ∧ i < first + 1 + count ∧ P i} := by
    ext i
    constructor
    · rintro ⟨hle, hlt, hi⟩
      have hne : first ≠ i := by
        rintro rfl
        apply h hi
      exact ⟨by omega, by omega, hi⟩
    · rintro ⟨hle, hlt, hi⟩
      exact ⟨by omega, by omega, hi⟩
  rw [hsame]

theorem firstLocked?_eq_some_iff {first index : Nat} {es : List Entry} :
  firstLocked? b first es = some index
    ↔ IsLeast {i | first ≤ i ∧ i < first + es.length ∧ (entry b i).isLocked = true} index
  := by
  induction es generalizing first with
  | nil =>
    constructor
    · intro h
      cases h
    · rintro ⟨⟨hle, hlt, -⟩, -⟩
      rw [List.length_nil] at hlt
      omega
  | cons e rest ih =>
    rw [firstLocked?, List.length_cons]
    split
    · rename_i hlocked
      rw [isLeast_from_self hlocked, Option.some_inj]
    · rename_i hopen
      rw [isLeast_from_succ hopen, ih]

theorem firstMismatch?_eq_some_iff {first index : Nat} {es : List Entry} {wrote : Entry} :
  firstMismatch? b first es = some (index, wrote)
    ↔ IsLeast {i | first ≤ i ∧ i < first + es.length ∧ es[i - first]? ≠ some (entry b i)} index
      ∧ es[index - first]? = some wrote
  := by
  induction es generalizing first with
  | nil => simp [firstMismatch?]
  | cons e rest ih =>
    have hhead : (e :: rest)[first - first]? = some e := by
      rw [Nat.sub_self, List.getElem?_cons_zero]
    have htail : ∀ i, first + 1 ≤ i → (e :: rest)[i - first]? = rest[i - (first + 1)]? := by
      intro i hi
      rw [show i - first = i - (first + 1) + 1 by omega, List.getElem?_cons_succ]
    rw [firstMismatch?, List.length_cons]
    split
    · rename_i hsame
      have hrest : {i | first + 1 ≤ i ∧ i < first + 1 + rest.length
            ∧ (e :: rest)[i - first]? ≠ some (entry b i)}
          = {i | first + 1 ≤ i ∧ i < first + 1 + rest.length
            ∧ rest[i - (first + 1)]? ≠ some (entry b i)} := by
        ext i
        apply and_congr_right
        intro hi
        rw [htail i hi]
      rw [isLeast_from_succ (by rw [hhead, hsame, not_not]), hrest, ih]
      apply and_congr_right
      intro hleast
      rw [htail index hleast.1.1]
    · rename_i hdiffers
      have hne : (e :: rest)[first - first]? ≠ some (entry b first) := by
        rw [hhead, Ne, Option.some_inj]
        apply Ne.symm hdiffers
      rw [isLeast_from_self hne, Option.some_inj, Prod.mk.injEq]
      apply and_congr_right
      rintro rfl
      rw [hhead, Option.some_inj]

/-- A plan is refused when it does not fit, or else for the lowest locked entry. -/
theorem refusal?_eq_some_iff {e : ProtectionError} :
  refusal? b plan = some e
    ↔ (available b < plan.size ∧ e = .tooManyEntries plan.size (available b))
      ∨ (plan.size ≤ available b ∧ ∃ index, e = .entryLocked index
        ∧ IsLeast {i | i < plan.size ∧ (entry b i).isLocked = true} index)
  := by
  have hlocked : ∀ index, firstLocked? b 0 plan.entries = some index
      ↔ IsLeast {i | i < plan.size ∧ (entry b i).isLocked = true} index := by
    intro index
    rw [firstLocked?_eq_some_iff]
    simp only [Nat.zero_le, Nat.zero_add, true_and]
    rfl
  rw [refusal?]
  split
  · rename_i hlong
    constructor
    · rintro ⟨⟩
      left
      exact ⟨hlong, rfl⟩
    · rintro (⟨-, rfl⟩ | ⟨hfits, -⟩)
      · rfl
      · omega
  · rename_i hfits
    rw [Option.map_eq_some_iff]
    constructor
    · rintro ⟨index, hindex, rfl⟩
      right
      exact ⟨Nat.le_of_not_lt hfits, index, rfl, (hlocked index).mp hindex⟩
    · rintro (⟨hlong, -⟩ | ⟨-, index, rfl, hleast⟩)
      · cases hfits hlong
      · exact ⟨index, (hlocked index).mpr hleast, rfl⟩

/-- A plan is not read back for the lowest entry that does not read as it was written. -/
theorem readback?_eq_some_iff {e : ProtectionError} :
  readback? b plan = some e
    ↔ ∃ index wrote, e = .readback index wrote (entry b index)
      ∧ IsLeast {i | ∃ h : i < plan.size, entry b i ≠ plan.entries[i]} index
      ∧ plan.entries[index]? = some wrote
  := by
  have hdiffers : {i | 0 ≤ i ∧ i < 0 + plan.entries.length
        ∧ plan.entries[i - 0]? ≠ some (entry b i)}
      = {i | ∃ h : i < plan.size, entry b i ≠ plan.entries[i]} := by
    ext i
    constructor
    · rintro ⟨-, hi, hne⟩
      rw [Nat.zero_add] at hi
      use hi
      rw [Nat.sub_zero, List.getElem?_eq_getElem hi, Ne, Option.some_inj] at hne
      apply Ne.symm hne
    · rintro ⟨hi, hne⟩
      rw [Plan.size] at hi
      use Nat.zero_le i, by omega
      rw [Nat.sub_zero, List.getElem?_eq_getElem hi, Ne, Option.some_inj]
      apply Ne.symm hne
  rw [readback?, Option.map_eq_some_iff, Prod.exists]
  simp only [firstMismatch?_eq_some_iff, hdiffers]
  simp only [Nat.sub_zero]
  constructor
  · rintro ⟨index, wrote, ⟨hleast, hwrote⟩, rfl⟩
    exact ⟨index, wrote, rfl, hleast, hwrote⟩
  · rintro ⟨index, wrote, rfl, hleast, hwrote⟩
    exact ⟨index, wrote, ⟨hleast, hwrote⟩, rfl⟩

/-- A refusal comes first, and a plan that is not refused fits and meets no lock. -/
theorem fails_iff {e : ProtectionError} :
  Fails b plan e
    ↔ (refusal? b plan).or (readback? (written b 0 plan.entries) plan) = some e
  := by
  rw [Option.or_eq_some_iff, refusal?_eq_some_iff, refusal?_eq_none_iff, readback?_eq_some_iff]
  constructor
  · intro h
    cases h with
    | tooManyEntries hlong => exact .inl (.inl ⟨hlong, rfl⟩)
    | entryLocked hfits hleast => exact .inl (.inr ⟨hfits, _, rfl, hleast⟩)
    | readback hfits hopen hleast hwrote =>
      exact .inr ⟨⟨hfits, hopen⟩, _, _, rfl, hleast, hwrote⟩
  · rintro ((⟨hlong, rfl⟩ | ⟨hfits, _, rfl, hleast⟩)
      | ⟨⟨hfits, hopen⟩, _, _, rfl, hleast, hwrote⟩)
    · apply Fails.tooManyEntries hlong
    · apply Fails.entryLocked hfits hleast
    · apply Fails.readback hfits hopen hleast hwrote

theorem result_install (filter : LogFilter) (b : B) (plan : Plan) :
  ((install plan).run filter b).result
    = match (refusal? b plan).or (readback? (written b 0 plan.entries) plan) with
      | some e => .ok (.error e)
      | none => .ok (.ok ())
  := by
  rw [run_install]
  cases refusal? b plan with
  | some e => rfl
  | none =>
    dsimp only
    cases readback? (written b 0 plan.entries) plan with
    | some e => rfl
    | none => rfl

/-- An installation fails for the reasons above, and for no other. -/
theorem result_install_eq_error_iff (filter : LogFilter) {e : ProtectionError} :
  ((install plan).run filter b).result = .ok (.error e) ↔ Fails b plan e
  := by
  rw [fails_iff, result_install]
  split
  · rename_i hfails
    simp [hfails]
  · rename_i hfine
    simp [hfine]

theorem result_install_eq_ok_iff (filter : LogFilter) :
  ((install plan).run filter b).result = .ok (.ok ()) ↔ ∀ e, ¬ Fails b plan e
  := by
  simp only [fails_iff]
  rw [result_install]
  split
  · rename_i hfails
    simp [hfails]
  · rename_i hfine
    simp [hfine]

/-! ### Clearing -/

open SandboxMonitor.Action

theorem writes_bind_of_ok {σ α β : Type} {a : Action σ α} {next : α → Action σ β}
    {filter : LogFilter} {s s' : σ} {v : α} {events : List Event}
    (h : a.run filter s = ⟨.ok v, s', events⟩) :
  ((a >>= next).run filter s).writes
    = (a.run filter s).writes ++ ((next v).run filter s').writes
  := by
  rw [run_bind_of_ok h rfl, h]
  apply List.filterMap_append

theorem writes_log {σ : Type} (filter : LogFilter) (level : LogLevel) (message : String) (s : σ) :
  ((log level message).run filter s).writes = []
  := by
  rw [run_log, Outcome.writes]
  split <;> rfl

/-- Clearing an entry writes zeros to it if it is stale, and nothing else. -/
theorem writes_clearStale (filter : LogFilter) (b : B) (index : Nat) :
  ((clearStale index).run filter b).writes
    = if (entry b index).mode ≠ .off ∧ (entry b index).isLocked = false then [(index, .zero)]
      else []
  := by
  rw [clearStale, writes_bind_of_ok (run_state filter b)]
  dsimp only
  rw [run_state]
  by_cases hoff : (entry b index).mode = .off
  · rw [if_pos hoff, if_neg (by simp [hoff])]
    rfl
  · by_cases hlocked : (entry b index).isLocked = true
    · rw [if_neg hoff, if_pos hlocked, if_neg (by simp [hlocked]), writes_log]
      rfl
    · rw [if_neg hoff, if_neg hlocked, if_pos ⟨hoff, Bool.eq_false_iff.mpr hlocked⟩,
        writes_bind_of_ok (run_log _ _ filter b), writes_log]
      rfl

theorem staleFrom_succ (b : B) (first count : Nat) :
  staleFrom b first (count + 1)
    = (if (entry b first).mode ≠ .off ∧ (entry b first).isLocked = false then [first] else [])
      ++ staleFrom b (first + 1) count
  := by
  rw [staleFrom, List.range'_succ, List.filter_cons]
  simp only [decide_eq_true_eq]
  split <;> rfl

end ProtectionBank

namespace RegisterBank

variable {b c : RegisterBank} {plan : Plan}

theorem AgreeFrom.staleFrom_eq {first : Nat} (h : AgreeFrom first b c) (count : Nat) :
  staleFrom b first count = staleFrom c first count
  := by
  apply List.filter_congr
  intro i hi
  have hentry : entry b i = entry c i := h.entries i (List.mem_range'_1.mp hi).1
  rw [hentry]

/-- A sweep writes zeros to the stale entries, upwards: clearing one entry leaves those above it
as stale as they were. -/
theorem writes_sweep (filter : LogFilter) (b : RegisterBank) (first count : Nat) :
  ((sweep first count).run filter b).writes
    = (staleFrom b first count).map fun i => (i, Entry.zero)
  := by
  induction count generalizing b first with
  | zero => rfl
  | succ count ih =>
    obtain ⟨events, hclear⟩ := run_clearStale filter b first
    rw [sweep, writes_bind_of_ok hclear, writes_clearStale, ih,
      (agreeFrom_cleared b first).staleFrom_eq, staleFrom_succ, List.map_append]
    split <;> rfl

/-- The writes that clear what is stale above a plan. -/
def clearing (b : RegisterBank) (plan : Plan) : List (Nat × Entry) :=
  (staleFrom b plan.size (available b - plan.size)).map fun i => (i, Entry.zero)

/-- What an installation answers, and what it writes and leaves when it answers so. -/
structure Verdict (b : RegisterBank) (plan : Plan)
    (o : Outcome RegisterBank (Except ProtectionError Unit)) : Prop where
  fails_iff : ∀ e, o.result = .ok (.error e) ↔ Fails b plan e
  succeeds_iff : o.result = .ok (.ok ()) ↔ ∀ e, ¬ Fails b plan e
  /-- A plan that does not fit is not written at all, -/
  tooManyEntries : ∀ needed room, o.result = .ok (.error (.tooManyEntries needed room)) →
    o.writes = [] ∧ o.state = b
  /-- and no more is one for locked entries. -/
  entryLocked : ∀ index, o.result = .ok (.error (.entryLocked index)) →
    o.writes = [] ∧ o.state = b
  /-- Any other plan is written, -/
  readback : ∀ index wrote read, o.result = .ok (.error (.readback index wrote read)) →
    o.writes = plan.writes ∧ o.state = written b 0 plan.entries
  /-- and when it is read back, only the stale entries above it are written after it. -/
  succeeds : o.result = .ok (.ok ()) →
    o.writes = plan.writes ++ clearing b plan
      ∧ ∀ index (h : index < plan.size), o.state.entries index = plan.entries[index]

/-- An installation that succeeds leaves the plan, since the sweep stays above it. -/
theorem succeeds_install {filter : LogFilter}
    (h : ((install plan).run filter b).result = .ok (.ok ())) :
  ((install plan).run filter b).writes = plan.writes ++ clearing b plan
    ∧ ∀ index (h : index < plan.size),
      ((install plan).run filter b).state.entries index = plan.entries[index]
  := by
  obtain ⟨hrefusal, hreadback, -⟩ := run_install_of_ok filter h
  have hagree := agreeFrom_plan b plan
  have hsweep := writes_sweep filter (written b 0 plan.entries) plan.size
    (available b - plan.size)
  rw [run_install, hrefusal]
  dsimp only
  rw [hreadback]
  dsimp only
  rw [hagree.available_eq]
  constructor
  · rw [Outcome.writes, List.filterMap_append, plan.filterMap_written?, clearing,
      ← hagree.staleFrom_eq, ← hsweep]
    rfl
  · intro index hindex
    rw [entries_swept_of_lt _ _ hindex]
    apply readback?_eq_none_iff.mp hreadback

/-- Whatever writes the hardware drops and whatever bits it keeps, an installation fails just for
the reason that it answers; and when it succeeds, the plan is in the registers and nothing was
written but the plan and zeros to stale entries. -/
theorem install_verdict (filter : LogFilter) (b : RegisterBank) (plan : Plan) :
  Verdict b plan ((install plan).run filter b)
  := by
  constructor
  case fails_iff =>
    intro e
    apply result_install_eq_error_iff
  case succeeds_iff => apply result_install_eq_ok_iff
  case tooManyEntries =>
    intro needed room h
    cases (result_install_eq_error_iff filter).mp h with
    | tooManyEntries hlong =>
      rw [run_install, refusal?_eq_some_iff.mpr (.inl ⟨hlong, rfl⟩)]
      exact ⟨rfl, rfl⟩
  case entryLocked =>
    intro index h
    cases (result_install_eq_error_iff filter).mp h with
    | entryLocked hfits hleast =>
      rw [run_install, refusal?_eq_some_iff.mpr (.inr ⟨hfits, index, rfl, hleast⟩)]
      exact ⟨rfl, rfl⟩
  case readback =>
    intro index wrote read h
    cases (result_install_eq_error_iff filter).mp h with
    | readback hfits hopen hleast hwrote =>
      rw [run_install, refusal?_eq_none_iff.mpr ⟨hfits, hopen⟩]
      dsimp only
      rw [readback?_eq_some_iff.mpr ⟨index, wrote, rfl, hleast, hwrote⟩]
      exact ⟨plan.filterMap_written?, rfl⟩
  case succeeds => apply succeeds_install

/-- Hardware that keeps addresses in steps of 4096 bytes. -/
def coarse : RegisterBank := { clear 16 with addrMask := 0xFFFFFC00 }

/-- On coarse hardware a block of 4096 bytes is written and then found to be another. -/
theorem install_verdict_coarse :
  ((install oneBlock).run .off coarse).result
      = .ok (.error (.readback 0 ⟨0x9B, 0x200001FF⟩ ⟨0x9B, 0x20000000⟩))
    ∧ Fails coarse oneBlock (.readback 0 ⟨0x9B, 0x200001FF⟩ ⟨0x9B, 0x20000000⟩)
    ∧ ((install oneBlock).run .off coarse).writes = [(0, ⟨0x9B, 0x200001FF⟩)]
  := by
  have hverdict := install_verdict .off coarse oneBlock
  have hresult : ((install oneBlock).run .off coarse).result
      = .ok (.error (.readback 0 ⟨0x9B, 0x200001FF⟩ ⟨0x9B, 0x20000000⟩)) := rfl
  exact ⟨hresult, (hverdict.fails_iff _).mp hresult, (hverdict.readback _ _ _ hresult).1⟩

end RegisterBank

end SandboxMonitor
