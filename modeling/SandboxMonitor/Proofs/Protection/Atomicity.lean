import Mathlib.Tactic.ByContra
import SandboxMonitor.Proofs.Protection.Installation

/-!
# Installations that fail half way

`install` refuses a plan whose entries are locked before it writes anything.  There is one
lock that it does not look for: a locked top of range just above the plan freezes the
address of the plan's last entry, though that entry itself is not locked.  The entries below
are then written, the last one is written in part, and only the readback fails.
`RegisterBank.torn_iff` says that on hardware where only locks stop a write this is the one
way in which an installation fails and yet changes the registers.
-/

namespace SandboxMonitor

open ProtectionBank

theorem Plan.size_eq_succ (plan : Plan) {before : List Entry} {last : Entry}
    (h : plan.entries = before ++ [last]) :
  plan.size = before.length + 1
  := by
  rw [size, h]
  apply List.length_append

namespace RegisterBank

/-- An entry below one that is not locked keeps its address only if it is locked itself. -/
theorem addrFrozen_of_not_isLocked {b : RegisterBank} {index : Nat}
    (h : (b.entries (index + 1)).isLocked = false) :
  b.addrFrozen index = false
  := by
  rw [addrFrozen, Entry.freezesBelow, h, Bool.false_and, Bool.and_false]

/-! ### The last entry of a plan -/

section Last

variable {b : RegisterBank} {before : List Entry} {last : Entry}

/-- The entries below the last one are written as they were asked for. -/
theorem LocksOnly.entries_written_before (h : b.LocksOnly)
    (hopen : ∀ i ≤ before.length, (b.entries i).isLocked = false) (i : Nat)
    (hi : i < before.length) :
  (written b 0 (before ++ [last])).entries i = before[i]
  := by
  have hlength : (before ++ [last]).length = before.length + 1 := List.length_append
  have hwritten := entries_written b h.stuck 0 (before ++ [last])
    (fun j hj => by rw [Nat.zero_add]; apply hopen j (by omega)) i (by omega)
  rw [Nat.zero_add, h.settled_eq, addrFrozen_of_not_isLocked (hopen (i + 1) hi),
    List.getElem_append_left hi] at hwritten
  apply hwritten

/-- The last entry is written but for its address, which the entry above may freeze. -/
theorem LocksOnly.entries_written_last (h : b.LocksOnly) (last : Entry)
    (hopen : ∀ i ≤ before.length, (b.entries i).isLocked = false) :
  (written b 0 (before ++ [last])).entries before.length
    = ⟨last.cfg,
        if b.addrFrozen before.length then (b.entries before.length).addr else last.addr⟩
  := by
  have hlength : (before ++ [last]).length = before.length + 1 := List.length_append
  have hwritten := entries_written b h.stuck 0 (before ++ [last])
    (fun j hj => by rw [Nat.zero_add]; apply hopen j (by omega)) before.length (by omega)
  rw [Nat.zero_add, h.settled_eq, List.getElem_concat_length rfl] at hwritten
  apply hwritten

/-- A plan is read back unless the address of its last entry is frozen at another value. -/
theorem LocksOnly.readback?_eq_none_iff (h : b.LocksOnly)
    (hopen : ∀ i ≤ before.length, (b.entries i).isLocked = false) {plan : Plan}
    (hplan : plan.entries = before ++ [last]) :
  readback? (written b 0 plan.entries) plan = none
    ↔ (b.addrFrozen before.length = true → last.addr = (b.entries before.length).addr)
  := by
  have hsize := plan.size_eq_succ hplan
  have hlast := h.entries_written_last last hopen
  rw [ProtectionBank.readback?_eq_none_iff]
  simp only [hplan]
  constructor
  · intro hreads hfrozen
    have hread := (hreads before.length (by omega)).symm.trans hlast
    rw [List.getElem_concat_length rfl, if_pos hfrozen] at hread
    apply congrArg Entry.addr hread
  · intro hkept i hi
    by_cases hbefore : i < before.length
    · rw [List.getElem_append_left hbefore]
      apply h.entries_written_before hopen i hbefore
    · obtain rfl : i = before.length := by omega
      rw [List.getElem_concat_length rfl]
      apply hlast.trans
      split
      · rename_i hfrozen
        rw [← hkept hfrozen]
      · rfl

end Last

/-! ### Tearing -/

/-- A plan that ends with `last` is torn: its own entries are free, but the entry above it
freezes the address below, which is not the one that is to be written, and something else
changes. -/
structure TearsAt (b : RegisterBank) (before : List Entry) (last : Entry) : Prop where
  unlocked : ∀ i ≤ before.length, (b.entries i).isLocked = false
  frozen : b.addrFrozen before.length = true
  kept : last.addr ≠ (b.entries before.length).addr
  changed : (∃ i, ∃ h : i < before.length, before[i] ≠ b.entries i)
    ∨ last.cfg ≠ (b.entries before.length).cfg

/-- The writes of a plan whose last address is frozen change a register when an earlier
entry or the last configuration is new. -/
theorem LocksOnly.entries_written_ne_iff {b : RegisterBank} (h : b.LocksOnly)
    {before : List Entry} {last : Entry}
    (hopen : ∀ i ≤ before.length, (b.entries i).isLocked = false)
    (hfrozen : b.addrFrozen before.length = true) :
  (written b 0 (before ++ [last])).entries ≠ b.entries
    ↔ (∃ i, ∃ h : i < before.length, before[i] ≠ b.entries i)
      ∨ last.cfg ≠ (b.entries before.length).cfg
  := by
  have hlast := h.entries_written_last last hopen
  rw [if_pos hfrozen] at hlast
  constructor
  · intro hne
    by_contra hsame
    rw [not_or, not_not] at hsame
    obtain ⟨hbefore, hcfg⟩ := hsame
    apply hne
    funext i
    rcases Nat.lt_trichotomy i before.length with hlt | rfl | hgt
    · rw [h.entries_written_before hopen i hlt]
      by_contra hdiffers
      apply hbefore
      use i, hlt
    · rw [hlast, hcfg]
    · apply (agreeFrom_written b 0 (before ++ [last])).entries
      rw [List.length_append, List.length_singleton]
      omega
  · rintro (⟨i, hi, hne⟩ | hne) hsame
    · apply hne
      rw [← congrFun hsame i, h.entries_written_before hopen i hi]
    · apply hne
      rw [← congrFun hsame before.length, hlast]

section Torn

variable {b : RegisterBank} {plan : Plan} {before : List Entry} {last : Entry}

/-- A plan that is going to be torn is not refused. -/
theorem TearsAt.refusal?_eq_none (h : b.TearsAt before last)
    (hplan : plan.entries = before ++ [last]) :
  refusal? b plan = none
  := by
  have hsize := plan.size_eq_succ hplan
  have hcount : before.length + 1 < b.entryCount := by
    have hfrozen := h.frozen
    rw [addrFrozen, Bool.and_eq_true, decide_eq_true_eq] at hfrozen
    apply hfrozen.1
  rw [refusal?_eq_none_iff, hsize]
  constructor
  · apply Nat.le_min.mpr
    constructor
    · apply Nat.le_of_lt hcount
    · apply Nat.le_trans (Nat.le_of_eq hsize.symm) plan.fits
  · intro i hi
    apply h.unlocked i (Nat.le_of_lt_succ hi)

/-- A torn plan is not read back. -/
theorem TearsAt.readback?_ne_none (h : b.TearsAt before last) (hlocks : b.LocksOnly)
    (hplan : plan.entries = before ++ [last]) :
  readback? (written b 0 plan.entries) plan ≠ none
  := by
  rw [Ne, hlocks.readback?_eq_none_iff h.unlocked hplan, Classical.not_imp]
  exact ⟨h.frozen, h.kept⟩

/-- A plan that was not refused, was not read back and has changed a register is torn. -/
theorem LocksOnly.exists_tearsAt (hlocks : b.LocksOnly) (hrefusal : refusal? b plan = none)
    (hreadback : readback? (written b 0 plan.entries) plan ≠ none)
    (hchanged : (written b 0 plan.entries).entries ≠ b.entries) :
  ∃ before last, plan.entries = before ++ [last] ∧ b.TearsAt before last
  := by
  rcases List.eq_nil_or_concat plan.entries with hempty | ⟨before, last, hplan⟩
  · rw [hempty] at hchanged
    contradiction
  · rw [List.concat_eq_append] at hplan
    obtain ⟨-, hopen⟩ := refusal?_eq_none_iff.mp hrefusal
    have hopen : ∀ i ≤ before.length, (b.entries i).isLocked = false := by
      intro i hi
      apply hopen
      rw [plan.size_eq_succ hplan]
      apply Nat.lt_succ_of_le hi
    rw [Ne, hlocks.readback?_eq_none_iff hopen hplan, Classical.not_imp] at hreadback
    obtain ⟨hfrozen, hkept⟩ := hreadback
    rw [hplan, hlocks.entries_written_ne_iff hopen hfrozen] at hchanged
    use before, last, hplan, hopen, hfrozen, hkept

end Torn

variable {filter : LogFilter}

/-- Where only locks stop a write, an installation that fails has changed a register just
when the plan is torn by a lock above it. -/
theorem torn_iff {b : RegisterBank} (hlocks : b.LocksOnly) (plan : Plan) :
  ((∃ e, ((install plan).run filter b).result = .ok (.error e))
      ∧ ((install plan).run filter b).state.entries ≠ b.entries)
    ↔ ∃ before last, plan.entries = before ++ [last] ∧ b.TearsAt before last
  := by
  constructor
  · rintro ⟨⟨e, hresult⟩, hchanged⟩
    rcases install_cases filter b plan with
      ⟨e, -, hrun⟩ | ⟨hrefusal, e, events, hreadback, hrun⟩ | ⟨-, -, events, hrun⟩
    · rw [hrun] at hchanged
      contradiction
    · rw [hrun] at hchanged
      apply hlocks.exists_tearsAt hrefusal _ hchanged
      rw [hreadback]
      apply Option.some_ne_none
    · rw [hrun] at hresult
      cases hresult
  · rintro ⟨before, last, hplan, htears⟩
    rcases install_cases filter b plan with
      ⟨e, hrefusal, -⟩ | ⟨-, e, events, -, hrun⟩ | ⟨-, hreadback, -⟩
    · rw [htears.refusal?_eq_none hplan] at hrefusal
      cases hrefusal
    · rw [hrun]
      constructor
      · use e
      · rw [hplan]
        apply (hlocks.entries_written_ne_iff htears.unlocked htears.frozen).mpr htears.changed
    · apply absurd hreadback (htears.readback?_ne_none hlocks hplan)

/-- A bank in which the second entry is a locked top of range. -/
def lockedAbove : RegisterBank := (clear 16).put 1 ⟨0x88, 0x20000400⟩

/-- One entry, for a locked block of 4096 bytes. -/
def oneBlock : Plan := ⟨[.ofFields .block .readWrite true 0x200001FF], by decide⟩

/-- A plan of one block is torn below a locked top of range. -/
theorem torn_lockedAbove :
  lockedAbove.LocksOnly
    ∧ (∃ e, ((install oneBlock).run .off lockedAbove).result = .ok (.error e))
    ∧ ((install oneBlock).run .off lockedAbove).state.entries ≠ lockedAbove.entries
  := by
  have hlocks : lockedAbove.LocksOnly := ⟨rfl, rfl, rfl⟩
  use hlocks
  apply (torn_iff hlocks oneBlock).mpr
  use [], .ofFields .block .readWrite true 0x200001FF, rfl
  constructor
  · decide
  · decide
  · decide
  · right
    decide

/-- The plan of a region of 4096 bytes, installed below a locked top of range, is refused
only after its configuration is in the first entry, where the lock keeps it. -/
theorem install_leaves_locked_entry :
  lockedAbove.LocksOnly ∧ ∃ r plan, Region.covering 0x80000000 0x1000 .readWrite true = .ok r
    ∧ Plan.empty.push (.region r) = .ok plan
    ∧ (∃ e, ((install plan).run .off lockedAbove).result = .ok (.error e))
    ∧ lockedAbove.entries 0 = .zero
    ∧ ((install plan).run .off lockedAbove).state.entries 0 = ⟨0x9B, 0⟩
  := by
  exact ⟨⟨rfl, rfl, rfl⟩, _, oneBlock, rfl, rfl, ⟨_, rfl⟩, rfl, rfl⟩

end RegisterBank

end SandboxMonitor
