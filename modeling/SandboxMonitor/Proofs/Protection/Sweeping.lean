import SandboxMonitor.Proofs.Protection.Access
import SandboxMonitor.Proofs.Protection.Atomicity

/-!
# What a sweep leaves enabled

After the plan has been read back, `install` clears the entries above it that an earlier
stage left enabled.  The sweep ends at `Plan.capacity`, however many entries the hart has,
and unlike the plan it is not read back.  `RegisterBank.enabled_after_install_iff` says that
these are the two ways, and the only ones, in which an entry that is not locked still grants
access after an installation that succeeds: it lies beyond the capacity, or its writes are
dropped.
-/

namespace SandboxMonitor

open ProtectionBank

namespace RegisterBank

/-! ### One entry -/

/-- A sweep leaves the entries above it alone. -/
theorem agreeFrom_swept (b : RegisterBank) (first count : Nat) :
  AgreeFrom (first + count) (swept b first count) b
  := by
  induction count generalizing b first with
  | zero => apply AgreeFrom.refl
  | succ count ih =>
    rw [swept, Nat.add_comm count, ← Nat.add_assoc]
    apply (ih (cleared b first) (first + 1)).trans
    apply (agreeFrom_cleared b first).mono (Nat.le_add_right _ _)

/-- Clearing reaches an entry that is enabled, open and not stuck, and no other. -/
theorem cleared_eq (b : RegisterBank) (i : Nat) :
  cleared b i
    = if (b.entries i).mode = .off ∨ (b.entries i).isLocked = true ∨ i ∈ b.stuck then b
      else b.put i (b.settled i .zero)
  := by
  have hentry : entry b i = b.entries i := rfl
  have hwrite : ProtectionBank.write b i .zero = b.write i .zero := rfl
  rw [cleared, hentry, hwrite, write]
  by_cases hoff : (b.entries i).mode = .off
  · simp [hoff]
  · by_cases hlocked : (b.entries i).isLocked = true
    · simp [hlocked]
    · by_cases hstuck : i ∈ b.stuck <;> simp [hoff, hlocked, hstuck]

/-- An entry that has been written with zero is off, whatever bits the hardware keeps. -/
theorem mode_settled_zero (b : RegisterBank) (i : Nat) :
  (b.settled i .zero).mode = .off
  := by
  have hcfg : (b.settled i .zero).cfg = 0 := UInt8.zero_and
  rw [Entry.mode, hcfg]
  rfl

/-- Above the plan, an installation clears the entries within the capacity. -/
theorem entries_install {filter : LogFilter} {b : RegisterBank} {plan : Plan}
    (h : ((install plan).run filter b).result = .ok (.ok ())) {i : Nat}
    (habove : plan.size ≤ i) :
  ((install plan).run filter b).state.entries i
    = if i < available b then (cleared b i).entries i else b.entries i
  := by
  obtain ⟨hrefusal, -, events, hrun⟩ := run_install_of_ok filter h
  have hfits := (refusal?_eq_none_iff.mp hrefusal).1
  have hagree := agreeFrom_plan b plan
  rw [hrun, hagree.available_eq]
  split
  · rename_i hreached
    apply (entries_swept (written b 0 plan.entries) habove (by omega)).trans
    apply (hagree.mono habove).entries_cleared_eq
  · rename_i hbeyond
    apply ((agreeFrom_swept (written b 0 plan.entries) plan.size _).entries i (by omega)).trans
    apply hagree.entries i habove

/-! ### What stays enabled -/

variable {filter : LogFilter}

/-- After an installation that succeeds, an entry above the plan that is not locked is still
enabled just when it was so before and the sweep could not reach it: it lies beyond the
capacity, or the hardware drops the writes to it.  It then reads as it did. -/
theorem enabled_after_install_iff {b : RegisterBank} {plan : Plan}
    (h : ((install plan).run filter b).result = .ok (.ok ())) {i : Nat}
    (habove : plan.size ≤ i) (hcount : i < b.entryCount)
    (hopen : (((install plan).run filter b).state.entries i).isLocked = false) :
  ((((install plan).run filter b).state.entries i).mode ≠ .off
      ↔ (b.entries i).mode ≠ .off ∧ (Plan.capacity ≤ i ∨ i ∈ b.stuck))
    ∧ ((((install plan).run filter b).state.entries i).mode ≠ .off →
      ((install plan).run filter b).state.entries i = b.entries i)
  := by
  have hreach : i < available b ↔ i < Plan.capacity :=
    Nat.lt_min.trans (and_iff_right hcount)
  rw [entries_install h habove] at hopen ⊢
  simp only [hreach, ← Nat.not_lt] at hopen ⊢
  by_cases hcapacity : i < Plan.capacity
  · simp only [hcapacity, if_true, cleared_eq] at hopen ⊢
    split
    · rename_i hkept
      rw [if_pos hkept] at hopen
      simp only [hopen, Bool.false_eq_true, false_or] at hkept
      rcases hkept with hoff | hstuck
      · simp [hoff]
      · simp [hstuck]
    · rename_i hreached
      rw [not_or, not_or] at hreached
      simp [mode_settled_zero, hreached.2.2]
  · simp [hcapacity]

/-- A bank that an earlier stage has left all of memory for every access, in entry 5, whose
writes the hardware drops. -/
def stuckSpan : RegisterBank :=
  { (clear 16).put 5 ⟨0x1F, 0xFFFFFFFF⟩ with stuck := [5] }

/-- A bank of twenty entries that an earlier stage has left all of memory for every access,
in entry 18. -/
def spanBeyond : RegisterBank := (clear 20).put 18 ⟨0x1F, 0xFFFFFFFF⟩

/-- Above a plan of one block, the stuck entry stays enabled as it was. -/
theorem enabled_after_install_stuckSpan :
  ((install oneBlock).run .off stuckSpan).result = .ok (.ok ())
    ∧ (((install oneBlock).run .off stuckSpan).state.entries 5).isLocked = false
    ∧ (((install oneBlock).run .off stuckSpan).state.entries 5).mode ≠ .off
    ∧ ((install oneBlock).run .off stuckSpan).state.entries 5 = stuckSpan.entries 5
  := by
  have hresult : ((install oneBlock).run .off stuckSpan).result = .ok (.ok ()) := rfl
  have hopen : (((install oneBlock).run .off stuckSpan).state.entries 5).isLocked = false := by
    decide
  have henabled := enabled_after_install_iff hresult (by decide : oneBlock.size ≤ 5) (by decide)
    hopen
  have hmode := henabled.1.mpr ⟨by decide, .inr (by decide)⟩
  exact ⟨hresult, hopen, hmode, henabled.2 hmode⟩

/-- Installations succeed and leave an entry that is not locked enabled above the plan: one
that is stuck, and one beyond the capacity.  Either opens all of memory to user mode. -/
theorem install_leaves_span_enabled :
  (((install oneBlock).run .off stuckSpan).result = .ok (.ok ())
      ∧ oneBlock.size ≤ 5 ∧ 5 < stuckSpan.entryCount
      ∧ (((install oneBlock).run .off stuckSpan).state.entries 5).isLocked = false
      ∧ (((install oneBlock).run .off stuckSpan).state.entries 5).mode = .block
      ∧ userMay ((install oneBlock).run .off stuckSpan).state .write 0 = true)
    ∧ ((install oneBlock).run .off spanBeyond).result = .ok (.ok ())
      ∧ oneBlock.size ≤ 18 ∧ 18 < spanBeyond.entryCount
      ∧ (((install oneBlock).run .off spanBeyond).state.entries 18).isLocked = false
      ∧ (((install oneBlock).run .off spanBeyond).state.entries 18).mode = .block
      ∧ userMay ((install oneBlock).run .off spanBeyond).state .write 0 = true
  := by
  and_intros
  · rfl
  all_goals decide

end RegisterBank

end SandboxMonitor
