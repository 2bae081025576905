import Mathlib.Tactic.Use
import SandboxMonitor.Protection.Install

/-!
# What an installation leaves in the registers

`install` refuses, writes, reads back and sweeps.  `install_cases` says what it leaves behind
in each case, in terms of `ProtectionBank.written` and `ProtectionBank.swept`, the banks after
the writes of a plan and after a sweep.

On a `RegisterBank` both go upwards, and a write depends only on the entry itself and on the
entry above it (`RegisterBank.AgreeFrom`).  So each entry ends as if its own write were the
only one.  Where only locks stop a write, and what is locked is off, an installation that
succeeds leaves the plan and nothing else (`RegisterBank.holdsOnly_install`).
-/

namespace SandboxMonitor

namespace ProtectionBank

variable {B : Type} [ProtectionBank B]

/-- The bank after entries have been written from an index on. -/
def written (b : B) (first : Nat) : List Entry → B
  | [] => b
  | e :: rest => written (write b first e) (first + 1) rest

/-- The bank after an entry has been cleared, unless it is off or locked. -/
def cleared (b : B) (index : Nat) : B :=
  if (entry b index).mode = .off ∨ (entry b index).isLocked = true then b
  else write b index .zero

/-- The bank after `count` entries have been cleared from an index on. -/
def swept (b : B) (first : Nat) : Nat → B
  | 0 => b
  | count + 1 => swept (cleared b first) (first + 1) count

theorem firstLocked?_eq_none_iff {b : B} {first : Nat} {es : List Entry} :
  firstLocked? b first es = none
    ↔ ∀ i < es.length, (entry b (first + i)).isLocked = false
  := by
  induction es generalizing first with
  | nil => simp [firstLocked?]
  | cons e rest ih =>
    rw [firstLocked?, List.length_cons, Nat.forall_lt_succ_left']
    split
    · rename_i hlocked
      simp [hlocked]
    · rename_i hlocked
      simp [ih, hlocked, Nat.add_assoc, Nat.add_comm 1]

theorem firstMismatch?_eq_none_iff {b : B} {first : Nat} {es : List Entry} :
  firstMismatch? b first es = none
    ↔ ∀ i (h : i < es.length), entry b (first + i) = es[i]
  := by
  induction es generalizing first with
  | nil => simp [firstMismatch?]
  | cons e rest ih =>
    rw [firstMismatch?]
    split
    · rename_i heq
      rw [ih]
      have hshift : ∀ i, first + 1 + i = first + (i + 1) := by omega
      constructor
      · intro h i hi
        cases i with
        | zero => apply heq
        | succ i =>
          rw [← hshift]
          apply h i (Nat.lt_of_succ_lt_succ hi)
      · intro h i hi
        rw [hshift]
        apply h (i + 1) (Nat.succ_lt_succ hi)
    · rename_i hne
      constructor
      · intro h
        cases h
      · intro h
        apply absurd (h 0 (Nat.zero_lt_succ _)) hne

/-- A plan is written when it fits and none of its entries is locked. -/
theorem refusal?_eq_none_iff {b : B} {plan : Plan} :
  refusal? b plan = none
    ↔ plan.size ≤ available b ∧ ∀ i < plan.size, (entry b i).isLocked = false
  := by
  rw [refusal?]
  split
  · rename_i hlong
    constructor
    · intro h
      cases h
    · rintro ⟨hfits, -⟩
      omega
  · rename_i hfits
    rw [Option.map_eq_none_iff, firstLocked?_eq_none_iff]
    simp only [Nat.zero_add]
    constructor
    · intro h
      use by omega, h
    · rintro ⟨-, h⟩
      apply h

/-- A bank passes the readback when it holds the plan. -/
theorem readback?_eq_none_iff {b : B} {plan : Plan} :
  readback? b plan = none ↔ ∀ i (h : i < plan.size), entry b i = plan.entries[i]
  := by
  rw [readback?, Option.map_eq_none_iff, firstMismatch?_eq_none_iff]
  simp only [Nat.zero_add]
  rfl

/-- The first entries of a bank are those of a list, and its other entries are off. -/
structure HoldsOnly (b : B) (es : List Entry) : Prop where
  fits : es.length ≤ entryCount b
  held : ∀ index (h : index < es.length), entry b index = es[index]
  off : ∀ index, es.length ≤ index → index < entryCount b → (entry b index).mode = .off

end ProtectionBank

open ProtectionBank

/-! ### Running an installation -/

section Run

variable {B : Type} [ProtectionBank B] (filter : LogFilter)

theorem run_writeEntries (b : B) (first : Nat) (es : List Entry) :
  (writeEntries first es).run filter b
    = ⟨.ok (), written b first es, es.mapIdx fun i e => .protect (first + i) e⟩
  := by
  induction es generalizing b first with
  | nil => rfl
  | cons e rest ih =>
    rw [writeEntries, Action.run_bind, writeEntry, Action.run_bind]
    simp only [Action.run_emit, Action.run_modify, ih, List.mapIdx_cons, Nat.add_zero,
      Nat.add_assoc, Nat.add_comm 1]
    rfl

theorem run_clearStale (b : B) (index : Nat) :
  ∃ events, (clearStale index).run filter b = ⟨.ok (), cleared b index, events⟩
  := by
  rw [clearStale, Action.run_bind, cleared]
  simp only [Action.run_state]
  split
  · rename_i hoff
    simp [hoff]
  · rename_i hon
    split
    · rename_i hlocked
      simp [hlocked]
    · rename_i hlocked
      simp [hon, hlocked, writeEntry, Action.run_bind]

theorem run_sweep (b : B) (first count : Nat) :
  ∃ events, (sweep first count).run filter b = ⟨.ok (), swept b first count, events⟩
  := by
  induction count generalizing b first with
  | zero =>
    use []
    rfl
  | succ count ih =>
    obtain ⟨now, hclear⟩ := run_clearStale filter b first
    obtain ⟨later, hsweep⟩ := ih (cleared b first) (first + 1)
    use now ++ later
    rw [sweep, Action.run_bind, hclear]
    simp only [hsweep]
    rfl

/-- An installation that does not refuse writes the plan, and one that reads it back then sweeps
what lies above it. -/
theorem run_install (b : B) (plan : Plan) :
  (install plan).run filter b
    = match refusal? b plan with
      | some e => ⟨.ok (.error e), b, []⟩
      | none =>
        let b' := written b 0 plan.entries
        let writes := plan.entries.mapIdx fun i e => Event.protect i e
        match readback? b' plan with
        | some e => ⟨.ok (.error e), b', writes⟩
        | none =>
          ⟨.ok (.ok ()), swept b' plan.size (available b' - plan.size),
            writes ++ ((sweep plan.size (available b' - plan.size)).run filter b').events⟩
  := by
  rw [install, Action.run_bind]
  simp only [Action.run_state]
  cases hrefusal : refusal? b plan with
  | some e => rfl
  | none =>
    have hwrites := run_writeEntries filter b 0 plan.entries
    simp only [Nat.zero_add] at hwrites
    simp only [Action.run_bind, hwrites, Action.run_state]
    cases hreadback : readback? (written b 0 plan.entries) plan with
    | some e => simp only [Action.run_pure, List.append_nil, List.nil_append]
    | none =>
      obtain ⟨events, hsweep⟩ := run_sweep filter (written b 0 plan.entries) plan.size
        (available (written b 0 plan.entries) - plan.size)
      simp only [Action.run_bind, hsweep, Action.run_pure, List.append_nil, List.nil_append]

/-- An installation refuses and changes nothing, or writes the plan and fails to read it back,
or writes the plan and sweeps what lies above it. -/
theorem install_cases (b : B) (plan : Plan) :
  (∃ e, refusal? b plan = some e ∧ (install plan).run filter b = ⟨.ok (.error e), b, []⟩)
    ∨ (refusal? b plan = none ∧ ∃ e events, readback? (written b 0 plan.entries) plan = some e
      ∧ (install plan).run filter b = ⟨.ok (.error e), written b 0 plan.entries, events⟩)
    ∨ (refusal? b plan = none ∧ readback? (written b 0 plan.entries) plan = none
      ∧ ∃ events, (install plan).run filter b
        = ⟨.ok (.ok ()), swept (written b 0 plan.entries) plan.size
            (available (written b 0 plan.entries) - plan.size), events⟩)
  := by
  rw [run_install]
  cases refusal? b plan with
  | some e =>
    left
    exact ⟨e, rfl, rfl⟩
  | none =>
    right
    dsimp only
    cases readback? (written b 0 plan.entries) plan with
    | some e =>
      left
      exact ⟨rfl, e, _, rfl, rfl⟩
    | none =>
      right
      exact ⟨rfl, rfl, _, rfl⟩

/-- An installation that succeeds has not refused the plan, has written it and read it back, and
has swept what lies above it. -/
theorem run_install_of_ok {b : B} {plan : Plan}
    (h : ((install plan).run filter b).result = .ok (.ok ())) :
  refusal? b plan = none ∧ readback? (written b 0 plan.entries) plan = none
    ∧ ∃ events, (install plan).run filter b
      = ⟨.ok (.ok ()), swept (written b 0 plan.entries) plan.size
          (available (written b 0 plan.entries) - plan.size), events⟩
  := by
  rcases install_cases filter b plan with
    ⟨e, -, hrun⟩ | ⟨-, e, events, -, hrun⟩ | hok
  · rw [hrun] at h
    cases h
  · rw [hrun] at h
    cases h
  · apply hok

end Run

/-! ### The registers of a bank that keeps each entry by itself -/

namespace RegisterBank

/-- Two banks that agree on their hardware and on the entries from an index on. -/
structure AgreeFrom (first : Nat) (b c : RegisterBank) : Prop where
  entryCount : b.entryCount = c.entryCount
  cfgMask : b.cfgMask = c.cfgMask
  addrMask : b.addrMask = c.addrMask
  stuck : b.stuck = c.stuck
  entries : ∀ i, first ≤ i → b.entries i = c.entries i

theorem AgreeFrom.refl (first : Nat) (b : RegisterBank) :
  AgreeFrom first b b
  := ⟨rfl, rfl, rfl, rfl, fun _ _ => rfl⟩

theorem AgreeFrom.trans {first : Nat} {b c d : RegisterBank} (h : AgreeFrom first b c)
    (h' : AgreeFrom first c d) :
  AgreeFrom first b d
  where
  entryCount := h.entryCount.trans h'.entryCount
  cfgMask := h.cfgMask.trans h'.cfgMask
  addrMask := h.addrMask.trans h'.addrMask
  stuck := h.stuck.trans h'.stuck
  entries i hi := (h.entries i hi).trans (h'.entries i hi)

theorem AgreeFrom.mono {first later : Nat} {b c : RegisterBank} (h : AgreeFrom first b c)
    (hle : first ≤ later) :
  AgreeFrom later b c
  where
  entryCount := h.entryCount
  cfgMask := h.cfgMask
  addrMask := h.addrMask
  stuck := h.stuck
  entries i hi := h.entries i (Nat.le_trans hle hi)

/-- A write leaves the entries above its own alone. -/
theorem agreeFrom_write (b : RegisterBank) (index : Nat) (e : Entry) :
  AgreeFrom (index + 1) (b.write index e) b
  := by
  rw [write]
  split
  · apply AgreeFrom.refl
  · constructor
    · rfl
    · rfl
    · rfl
    · rfl
    · intro i hi
      rw [entries_put, if_neg (by omega)]

theorem AgreeFrom.settled_eq {index : Nat} {b c : RegisterBank} (h : AgreeFrom index b c)
    (e : Entry) :
  b.settled index e = c.settled index e
  := by
  rw [settled, settled, addrFrozen, addrFrozen, h.entryCount, h.cfgMask, h.addrMask,
    h.entries index (Nat.le_refl _), h.entries (index + 1) (Nat.le_succ _)]

/-- What an entry holds after a write to it depends on the entries from there on. -/
theorem AgreeFrom.entries_write_eq {index : Nat} {b c : RegisterBank} (h : AgreeFrom index b c)
    (e : Entry) :
  (b.write index e).entries index = (c.write index e).entries index
  := by
  rw [write, write, h.stuck, h.entries index (Nat.le_refl _)]
  split
  · apply h.entries index (Nat.le_refl _)
  · simp [h.settled_eq e]

theorem agreeFrom_cleared (b : RegisterBank) (index : Nat) :
  AgreeFrom (index + 1) (cleared b index) b
  := by
  rw [cleared]
  split
  · apply AgreeFrom.refl
  · apply agreeFrom_write

theorem AgreeFrom.entries_cleared_eq {index : Nat} {b c : RegisterBank}
    (h : AgreeFrom index b c) :
  (cleared b index).entries index = (cleared c index).entries index
  := by
  have hentry : entry b index = entry c index := h.entries index (Nat.le_refl _)
  rw [cleared, cleared, hentry]
  split
  · apply hentry
  · apply h.entries_write_eq

/-- A write or a clearing of one entry leaves the others alone. -/
theorem entries_cleared_of_ne (b : RegisterBank) {index i : Nat} (h : i ≠ index) :
  (cleared b index).entries i = b.entries i
  := by
  rw [cleared]
  split
  · rfl
  · apply entries_write_of_ne b .zero h

/-- Writing a list of entries leaves the entries below and above it alone. -/
theorem agreeFrom_written (b : RegisterBank) (first : Nat) (es : List Entry) :
  AgreeFrom (first + es.length) (written b first es) b
  := by
  induction es generalizing b first with
  | nil => apply AgreeFrom.refl
  | cons e rest ih =>
    rw [written, List.length_cons, Nat.add_comm rest.length, ← Nat.add_assoc]
    apply (ih (b.write first e) (first + 1)).trans
    apply (agreeFrom_write b first e).mono (Nat.le_add_right _ _)

/-- Writing a plan leaves the entries above it alone. -/
theorem agreeFrom_plan (b : RegisterBank) (plan : Plan) :
  AgreeFrom plan.size (written b 0 plan.entries) b
  := by
  have hagree := agreeFrom_written b 0 plan.entries
  rw [Nat.zero_add] at hagree
  apply hagree

theorem AgreeFrom.available_eq {first : Nat} {b c : RegisterBank} (h : AgreeFrom first b c) :
  available b = available c
  := congrArg (min · Plan.capacity) h.entryCount

theorem entries_written_of_lt (b : RegisterBank) {first i : Nat} (es : List Entry)
    (h : i < first) :
  (written b first es).entries i = b.entries i
  := by
  induction es generalizing b first with
  | nil => rfl
  | cons e rest ih =>
    rw [written, ih _ (Nat.lt_succ_of_lt h)]
    apply entries_write_of_ne b e (Nat.ne_of_lt h)

/-- Where nothing is stuck and none of the entries is locked, each entry ends as if its write
were the only one: writes go upwards, and what freezes an address is the entry above it. -/
theorem entries_written (b : RegisterBank) (hstuck : b.stuck = []) (first : Nat)
    (es : List Entry) (hopen : ∀ i < es.length, (b.entries (first + i)).isLocked = false)
    (i : Nat) (h : i < es.length) :
  (written b first es).entries (first + i) = b.settled (first + i) es[i]
  := by
  induction es generalizing b first i with
  | nil => cases h
  | cons e rest ih =>
    have hwrite : b.write first e = b.put first (b.settled first e) := by
      have hlocked : (b.entries first).isLocked = false := hopen 0 (Nat.zero_lt_succ _)
      simp [write, hstuck, hlocked]
    have hagree := agreeFrom_write b first e
    rw [written]
    cases i with
    | zero =>
      apply (entries_written_of_lt (b.write first e) rest (Nat.lt_succ_self first)).trans
      simp [hwrite]
    | succ i =>
      have hshift : ∀ j, first + (j + 1) = first + 1 + j := by omega
      rw [hshift i]
      apply (ih (b.write first e) (hagree.stuck.trans hstuck) (first + 1) _ i
        (Nat.lt_of_succ_lt_succ h)).trans
      · apply (hagree.mono (Nat.le_add_right _ _)).settled_eq
      · intro j hj
        rw [hagree.entries _ (Nat.le_add_right _ _), ← hshift]
        apply hopen (j + 1) (Nat.succ_lt_succ hj)

theorem entries_swept_of_lt (b : RegisterBank) {first i : Nat} (count : Nat) (h : i < first) :
  (swept b first count).entries i = b.entries i
  := by
  induction count generalizing b first with
  | zero => rfl
  | succ count ih =>
    rw [swept, ih _ (Nat.lt_succ_of_lt h)]
    apply entries_cleared_of_ne b (Nat.ne_of_lt h)

/-- Each entry of a sweep ends as if it were the only one that is cleared. -/
theorem entries_swept (b : RegisterBank) {first count i : Nat} (hlo : first ≤ i)
    (hhi : i < first + count) :
  (swept b first count).entries i = (cleared b i).entries i
  := by
  induction count generalizing b first with
  | zero => omega
  | succ count ih =>
    rw [swept]
    by_cases heq : i = first
    · subst heq
      apply entries_swept_of_lt _ count (Nat.lt_succ_self i)
    · rw [ih (cleared b first) (by omega) (by omega)]
      apply ((agreeFrom_cleared b first).mono (by omega)).entries_cleared_eq

theorem entryCount_swept (b : RegisterBank) (first count : Nat) :
  (swept b first count).entryCount = b.entryCount
  := by
  induction count generalizing b first with
  | zero => rfl
  | succ count ih =>
    rw [swept, ih]
    apply (agreeFrom_cleared b first).entryCount

/-! ### Hardware on which only a lock stops a write -/

/-- A bank that keeps every bit of a write unless a lock forbids it. -/
structure LocksOnly (b : RegisterBank) : Prop where
  cfgMask : b.cfgMask = 0xFF
  addrMask : b.addrMask = 0xFFFFFFFF
  stuck : b.stuck = []

theorem LocksOnly.settled_eq {b : RegisterBank} (h : b.LocksOnly) (index : Nat) (e : Entry) :
  b.settled index e
    = ⟨e.cfg, if b.addrFrozen index then (b.entries index).addr else e.addr⟩
  := by
  have hcfg : e.cfg &&& 0xFF = e.cfg := UInt8.and_neg_one
  have haddr : e.addr &&& 0xFFFFFFFF = e.addr := UInt32.and_neg_one
  rw [settled, h.cfgMask, h.addrMask, hcfg, haddr]

theorem LocksOnly.mode_cleared {b : RegisterBank} (h : b.LocksOnly) {index : Nat}
    (hlocked : (b.entries index).isLocked = true → (b.entries index).mode = .off) :
  ((cleared b index).entries index).mode = .off
  := by
  have hentry : entry b index = b.entries index := rfl
  rw [cleared, hentry]
  split
  · rename_i hkept
    rcases hkept with hoff | hlock
    · apply hoff
    · apply hlocked hlock
  · rename_i hopen
    rw [not_or] at hopen
    have hwrite : ProtectionBank.write b index Entry.zero
        = b.put index (b.settled index .zero) := by
      change b.write index .zero = _
      simp [write, h.stuck, hopen.2]
    rw [hwrite, entries_put, if_pos rfl, h.settled_eq]
    simp [Entry.mode, Entry.zero, AddressMode.ofCode]

theorem AgreeFrom.locksOnly {first : Nat} {b c : RegisterBank} (h : AgreeFrom first b c)
    (hlocks : c.LocksOnly) :
  b.LocksOnly
  where
  cfgMask := h.cfgMask.trans hlocks.cfgMask
  addrMask := h.addrMask.trans hlocks.addrMask
  stuck := h.stuck.trans hlocks.stuck

/-- Where only locks stop a write, and what is locked is off, the plan that was installed
comes first and nothing comes after it. -/
theorem holdsOnly_install {filter : LogFilter} {b : RegisterBank} (hlocks : b.LocksOnly)
    (hcount : b.entryCount ≤ Plan.capacity)
    (hoff : ∀ i < b.entryCount, (b.entries i).isLocked = true → (b.entries i).mode = .off)
    {plan : Plan} (h : ((install plan).run filter b).result = .ok (.ok ())) :
  HoldsOnly ((install plan).run filter b).state plan.entries
  := by
  obtain ⟨hrefusal, hreadback, events, hrun⟩ := run_install_of_ok filter h
  have hagree := agreeFrom_plan b plan
  have hfits : plan.size ≤ b.entryCount :=
    Nat.le_trans (refusal?_eq_none_iff.mp hrefusal).1 (Nat.min_le_left _ _)
  have havailable : available b = b.entryCount := Nat.min_eq_left hcount
  rw [hrun, hagree.available_eq, havailable]
  constructor
  · apply Nat.le_trans hfits
    apply Nat.le_of_eq ((entryCount_swept _ _ _).trans hagree.entryCount).symm
  · intro i hi
    apply (entries_swept_of_lt _ _ hi).trans
    apply readback?_eq_none_iff.mp hreadback i hi
  · intro i hlo hhi
    have hhi' : i < b.entryCount := by
      apply Nat.lt_of_lt_of_eq hhi
      apply (entryCount_swept _ _ _).trans hagree.entryCount
    have hswept := entries_swept (written b 0 plan.entries) hlo
      (show i < plan.size + (b.entryCount - plan.size) by omega)
    apply (congrArg Entry.mode hswept).trans
    apply (hagree.locksOnly hlocks).mode_cleared
    rw [hagree.entries i hlo]
    apply hoff i hhi'

end RegisterBank

end SandboxMonitor
