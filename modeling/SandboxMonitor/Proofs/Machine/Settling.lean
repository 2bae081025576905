import Mathlib.Data.Nat.Find
import Mathlib.Logic.Function.Iterate
import Mathlib.Order.Bounds.Basic
import SandboxMonitor.Proofs.Action.Rules
import SandboxMonitor.Proofs.Machine.Sampling

/-!
# When a counter settles

A counter register answers from a finite script, of which the last answer repeats.  A pass over a
counter takes two answers of its high half and one of its low half, so the `k`-th pass compares the
high halves `2 * k` and `2 * k + 1`.  Behind the end of the script they agree, hence some pass
agrees, and a reading ends at the first one that does (`Machine.run_readCounter_withPasses`).
`Machine.readWithin` counts the passes that this takes.

Snapshots in a row take the passes that agree one after the other, for each counter on its own:
`Counters.passes` are the passes that a number of snapshots makes, and each snapshot goes on where
the one before it has stopped (`Machine.counters_settle`).
-/

namespace SandboxMonitor

open SandboxMonitor.Action

/-! ### What a script answers -/

namespace Script

variable {α : Type}

/-- The answer to the `i`-th reading, counted from zero; the last answer repeats. -/
def answer (s : Script α) (fallback : α) (i : Nat) : α :=
  s.items[min i (s.items.length - 1)]?.getD fallback

theorem head_eq_answer (s : Script α) (fallback : α) :
  s.head fallback = s.answer fallback 0
  := by
  obtain ⟨items⟩ := s
  cases items with
  | nil => rfl
  | cons _ _ => simp [head, answer]

theorem answer_advance (s : Script α) (fallback : α) (i : Nat) :
  s.advance.answer fallback i = s.answer fallback (i + 1)
  := by
  obtain ⟨items⟩ := s
  match items with
  | [] => rfl
  | [_] => simp [advance, answer]
  | _ :: _ :: rest =>
    have hindex : min (i + 1) (rest.length + 1) = min i rest.length + 1 := by omega
    simp [advance, answer, hindex]

/-- After `i` readings a script is about to give its `i`-th answer. -/
theorem head_iterate_advance (s : Script α) (fallback : α) (i : Nat) :
  (advance^[i] s).head fallback = s.answer fallback i
  := by
  induction i generalizing s with
  | zero => apply head_eq_answer
  | succ i ih => rw [Function.iterate_succ_apply, ih, answer_advance]

/-- From its last answer on a script answers the same. -/
theorem answer_of_size_le {s : Script α} (fallback : α) {i j : Nat} (hi : s.size ≤ i + 1)
    (hj : s.size ≤ j + 1) :
  s.answer fallback i = s.answer fallback j
  := by
  change s.items.length ≤ i + 1 at hi
  change s.items.length ≤ j + 1 at hj
  have hlast : min i (s.items.length - 1) = min j (s.items.length - 1) := by omega
  rw [answer, answer, hlast]

end Script

/-! ### Passes over a counter -/

namespace Counters

section Definitions

variable (cs : Counters) (c : Counter)

/-- The `i`-th answer of the register with a counter's high half. -/
def highHalf (i : Nat) : UInt32 := (cs.script c.high).answer 0 i

/-- The `i`-th answer of the register with a counter's low half. -/
def lowHalf (i : Nat) : UInt32 := (cs.script c.low).answer 0 i

/-- The high halves of the `k`-th pass agree. -/
def Agrees (k : Nat) : Prop := cs.highHalf c (2 * k) = cs.highHalf c (2 * k + 1)

instance : DecidablePred (cs.Agrees c) :=
  fun k => inferInstanceAs (Decidable (cs.highHalf c (2 * k) = cs.highHalf c (2 * k + 1)))

/-- The value that the `k`-th pass puts together. -/
def valueAt (k : Nat) : UInt64 := joinHalves (cs.highHalf c (2 * k)) (cs.lowHalf c k)

/-- The readings of `n` passes as events, from a pass on. -/
def eventsFrom (start n : Nat) : List Event :=
  (List.range' start n).flatMap fun k =>
    [.counter c.high (cs.highHalf c (2 * k)), .counter c.low (cs.lowHalf c k),
      .counter c.high (cs.highHalf c (2 * k + 1))]

/-- The counters after some readings of the two halves of one of them. -/
def advanced (highReads lowReads : Nat) : Counters :=
  (cs.withScript c.high (Script.advance^[highReads] (cs.script c.high))).withScript c.low
    (Script.advance^[lowReads] (cs.script c.low))

/-- The counters after some passes over each of them. -/
def after (made : Counter → Nat) : Counters where
  cycle := Script.advance^[made .cycle] cs.cycle
  cycleHigh := Script.advance^[2 * made .cycle] cs.cycleHigh
  instret := Script.advance^[made .instret] cs.instret
  instretHigh := Script.advance^[2 * made .instret] cs.instretHigh

end Definitions

section Settling

variable {cs : Counters} {c : Counter}

/-- The high halves of a pass behind the end of the script agree. -/
theorem agrees_of_le {k : Nat} (h : (cs.script c.high).size / 2 ≤ k) :
  cs.Agrees c k
  := by
  apply Script.answer_of_size_le
  · omega
  · omega

theorem exists_agrees (cs : Counters) (c : Counter) (start : Nat) :
  ∃ k, start ≤ k ∧ cs.Agrees c k
  := by
  use max start ((cs.script c.high).size / 2), Nat.le_max_left _ _
  apply agrees_of_le (Nat.le_max_right _ _)

/-- The first pass from a pass on whose high halves agree. -/
def settlesAt (cs : Counters) (c : Counter) (start : Nat) : Nat :=
  Nat.find (cs.exists_agrees c start)

theorem isLeast_settlesAt (cs : Counters) (c : Counter) (start : Nat) :
  IsLeast {k | start ≤ k ∧ cs.Agrees c k} (cs.settlesAt c start)
  := by
  use Nat.find_spec (cs.exists_agrees c start)
  intro k hk
  apply Nat.find_min' (cs.exists_agrees c start) hk

theorem le_settlesAt (cs : Counters) (c : Counter) (start : Nat) :
  start ≤ cs.settlesAt c start
  := (cs.isLeast_settlesAt c start).1.1

/-- A counter settles at the latest where its script has ended. -/
theorem settlesAt_le (cs : Counters) (c : Counter) (start : Nat) :
  cs.settlesAt c start ≤ max start ((cs.script c.high).size / 2)
  := by
  apply (cs.isLeast_settlesAt c start).2
  use Nat.le_max_left _ _
  apply agrees_of_le (Nat.le_max_right _ _)

theorem settlesAt_of_agrees {start : Nat} (h : cs.Agrees c start) :
  cs.settlesAt c start = start
  := (cs.isLeast_settlesAt c start).unique ⟨⟨Nat.le_refl start, h⟩, fun _ hk => hk.1⟩

theorem settlesAt_of_not_agrees {start : Nat} (h : ¬ cs.Agrees c start) :
  cs.settlesAt c start = cs.settlesAt c (start + 1)
  := by
  have hnext := cs.isLeast_settlesAt c (start + 1)
  apply (cs.isLeast_settlesAt c start).unique
  use ⟨Nat.le_of_succ_le hnext.1.1, hnext.1.2⟩
  rintro k ⟨hk, hagrees⟩
  apply hnext.2
  constructor
  · apply Nat.lt_of_le_of_ne hk
    rintro rfl
    apply h hagrees
  · apply hagrees

end Settling

/-! ### Counters after some passes -/

theorem head_after_high (cs : Counters) (made : Counter → Nat) (c : Counter) :
  ((cs.after made).script c.high).head 0 = cs.highHalf c (2 * made c)
  := by
  cases c <;> apply Script.head_iterate_advance

theorem head_after_low (cs : Counters) (made : Counter → Nat) (c : Counter) :
  ((cs.after made).script c.low).head 0 = cs.lowHalf c (made c)
  := by
  cases c <;> apply Script.head_iterate_advance

theorem head_advance_after_high (cs : Counters) (made : Counter → Nat) (c : Counter) :
  ((cs.after made).script c.high).advance.head 0 = cs.highHalf c (2 * made c + 1)
  := by
  rw [highHalf, ← Script.head_iterate_advance, Function.iterate_succ_apply']
  cases c <;> rfl

/-- One more pass over a counter. -/
theorem afterPass_after (cs : Counters) (made : Counter → Nat) (c : Counter) :
  (cs.after made).afterPass c = cs.after (Function.update made c (made c + 1))
  := by
  have hlow (s : Script UInt32) (n : Nat) :
      Script.advance^[n + 1] s = (Script.advance^[n] s).advance :=
    Function.iterate_succ_apply' _ _ _
  have hhigh (s : Script UInt32) (n : Nat) :
      Script.advance^[2 * (n + 1)] s = (Script.advance^[2 * n] s).advance.advance := by
    rw [Nat.mul_succ, hlow, hlow]
  cases c <;> simp [after, afterPass, withScript, script, Counter.low, Counter.high, hlow, hhigh]

theorem eventsFrom_add (cs : Counters) (c : Counter) (start n k : Nat) :
  cs.eventsFrom c start (n + k) = cs.eventsFrom c start n ++ cs.eventsFrom c (start + n) k
  := by
  rw [eventsFrom, ← List.range'_append_1, List.flatMap_append]
  rfl

end Counters

/-! ### Readings -/

namespace Machine

variable {B : Type}

/-- Reads high, low and high again as `readCounter` does, but gives up after `n` passes whose high
halves differ. -/
def readWithin (c : Counter) : Nat → Action (Machine B) (Option UInt64)
  | 0 => return none
  | n + 1 => do
    let before ← readRegister c.high
    let middle ← readRegister c.low
    let after ← readRegister c.high
    if after = before then return some (joinHalves before middle) else readWithin c n

/-- What a bounded reading finds is what the reading without a bound finds. -/
theorem run_readCounter_of_readWithin {c : Counter} {n : Nat} {filter : LogFilter}
    {m m' : Machine B} {value : UInt64} {events : List Event}
    (h : (readWithin c n).run filter m = ⟨.ok (some value), m', events⟩) :
  (readCounter c).run filter m = ⟨.ok value, m', events⟩
  := by
  -- Both make the same pass, and then they end together or go on together.
  induction n generalizing m m' value events with
  | zero => cases h
  | succ n ih =>
    rw [readWithin, run_pass, run_emit_bind, run_emit_bind, run_emit_bind] at h
    rw [run_readCounter, run_pass, run_emit_bind, run_emit_bind, run_emit_bind]
    by_cases hagree :
        (m.counters.script c.high).advance.head 0 = (m.counters.script c.high).head 0
    · rw [if_pos hagree] at h ⊢
      cases h
      rfl
    · rw [if_neg hagree] at h ⊢
      rcases hrest : (readWithin c n).run filter { m with counters := m.counters.afterPass c }
        with ⟨result, m₁, later⟩
      rw [hrest] at h
      cases h
      rw [ih hrest]
      rfl

/-- The machine after some passes over each counter. -/
def withPasses (m : Machine B) (made : Counter → Nat) : Machine B :=
  { m with counters := m.counters.after made }

theorem withPasses_update (m : Machine B) (c : Counter) (n : Nat) :
  m.withPasses (Function.update (fun _ => 0) c n)
    = { m with counters := m.counters.advanced c (2 * n) n }
  := by
  cases c <;> rfl

section Passes

variable (made : Counter → Nat) {c : Counter} (filter : LogFilter) {m : Machine B}

/-- A pass takes the next high half, the next low half and the high half after that. -/
theorem run_pass_withPasses {α : Type} (c : Counter)
    (next : UInt32 → UInt32 → UInt32 → Action (Machine B) α) (m : Machine B) :
  (do
      let before ← readRegister c.high
      let middle ← readRegister c.low
      let after ← readRegister c.high
      next before middle after).run filter (m.withPasses made)
    = ((next (m.counters.highHalf c (2 * made c)) (m.counters.lowHalf c (made c))
          (m.counters.highHalf c (2 * made c + 1))).run filter
        (m.withPasses (Function.update made c (made c + 1)))).prepend
      (m.counters.eventsFrom c (made c) 1)
  := by
  rw [run_pass, withPasses, Counters.head_after_high, Counters.head_after_low,
    Counters.head_advance_after_high, Counters.afterPass_after]
  rfl

/-- A pass that agrees ends a bounded reading. -/
theorem run_readWithin_of_agrees (n : Nat) (h : m.counters.Agrees c (made c)) :
  (readWithin c (n + 1)).run filter (m.withPasses made)
    = ⟨.ok (some (m.counters.valueAt c (made c))),
        m.withPasses (Function.update made c (made c + 1)),
        m.counters.eventsFrom c (made c) 1⟩
  := by
  rw [readWithin, run_pass_withPasses, if_pos h.symm]
  rfl

/-- A pass that does not agree is followed by the passes that are left. -/
theorem run_readWithin_of_not_agrees (n : Nat) (h : ¬ m.counters.Agrees c (made c)) :
  (readWithin c (n + 1)).run filter (m.withPasses made)
    = ((readWithin c n).run filter
        (m.withPasses (Function.update made c (made c + 1)))).prepend
      (m.counters.eventsFrom c (made c) 1)
  := by
  rw [readWithin, run_pass_withPasses, if_neg (Ne.symm h)]

/-- A bounded reading gives up when its passes do not reach the first one that agrees. -/
theorem run_readWithin_of_le {n : Nat} (h : made c + n ≤ m.counters.settlesAt c (made c)) :
  (readWithin c n).run filter (m.withPasses made)
    = ⟨.ok none, m.withPasses (Function.update made c (made c + n)),
        m.counters.eventsFrom c (made c) n⟩
  := by
  induction n generalizing made with
  | zero =>
    rw [Nat.add_zero, Function.update_eq_self]
    rfl
  | succ n ih =>
    have hdiffer : ¬ m.counters.Agrees c (made c) := by
      intro hagrees
      rw [Counters.settlesAt_of_agrees hagrees] at h
      omega
    have hreach : Function.update made c (made c + 1) c + n
        ≤ m.counters.settlesAt c (Function.update made c (made c + 1) c) := by
      rw [Function.update_self, ← Counters.settlesAt_of_not_agrees hdiffer]
      omega
    have hcount : made c + 1 + n = made c + (n + 1) := by omega
    rw [run_readWithin_of_not_agrees made filter n hdiffer, ih _ hreach, Function.update_self,
      Function.update_idem, hcount, Nat.add_comm n 1, Counters.eventsFrom_add]
    rfl

/-- A bounded reading ends at the first pass that agrees when its passes reach it. -/
theorem run_readWithin_of_lt {n : Nat} (h : m.counters.settlesAt c (made c) < made c + n) :
  (readWithin c n).run filter (m.withPasses made)
    = ⟨.ok (some (m.counters.valueAt c (m.counters.settlesAt c (made c)))),
        m.withPasses (Function.update made c (m.counters.settlesAt c (made c) + 1)),
        m.counters.eventsFrom c (made c) (m.counters.settlesAt c (made c) + 1 - made c)⟩
  := by
  induction n generalizing made with
  | zero =>
    have hstart := m.counters.le_settlesAt c (made c)
    omega
  | succ n ih =>
    by_cases hagrees : m.counters.Agrees c (made c)
    · rw [Counters.settlesAt_of_agrees hagrees, Nat.add_sub_cancel_left]
      apply run_readWithin_of_agrees made filter n hagrees
    · rw [Counters.settlesAt_of_not_agrees hagrees] at h ⊢
      have hstart := m.counters.le_settlesAt c (made c + 1)
      have hreach : m.counters.settlesAt c (Function.update made c (made c + 1) c)
          < Function.update made c (made c + 1) c + n := by
        rw [Function.update_self]
        omega
      have hcount : m.counters.settlesAt c (made c + 1) + 1 - made c
          = 1 + (m.counters.settlesAt c (made c + 1) + 1 - (made c + 1)) := by omega
      rw [run_readWithin_of_not_agrees made filter n hagrees, ih _ hreach, Function.update_self,
        Function.update_idem, hcount, Counters.eventsFrom_add]
      rfl

/-- Four high halves may take three passes, and no more. -/
example (m : Machine B) :
    ((readWithin .cycle 2).run .off
        { m with counters := ⟨⟨[7, 8, 9]⟩, ⟨[0, 1, 1, 2]⟩, ⟨[]⟩, ⟨[]⟩⟩ }).result = .ok none
      ∧ ((readWithin .cycle 3).run .off
        { m with counters := ⟨⟨[7, 8, 9]⟩, ⟨[0, 1, 1, 2]⟩, ⟨[]⟩, ⟨[]⟩⟩ }).result
        = .ok (some (joinHalves 2 9)) :=
  ⟨rfl, rfl⟩

/-- A reading ends at the first pass that agrees. -/
theorem run_readCounter_withPasses (c : Counter) (m : Machine B) :
  (readCounter c).run filter (m.withPasses made)
    = ⟨.ok (m.counters.valueAt c (m.counters.settlesAt c (made c))),
        m.withPasses (Function.update made c (m.counters.settlesAt c (made c) + 1)),
        m.counters.eventsFrom c (made c) (m.counters.settlesAt c (made c) + 1 - made c)⟩
  := by
  apply run_readCounter_of_readWithin
  apply run_readWithin_of_lt made filter (n := m.counters.settlesAt c (made c) + 1)
  omega

/-- With passes enough a bounded reading is the reading without a bound. -/
theorem run_readWithin_eq_readCounter {n : Nat}
    (h : m.counters.settlesAt c (made c) < made c + n) :
  (readWithin c n).run filter (m.withPasses made)
    = (some <$> readCounter c).run filter (m.withPasses made)
  := by
  rw [run_readWithin_of_lt made filter h,
    run_map_of_ok some (run_readCounter_withPasses made filter c m)]

end Passes

end Machine

/-! ### Snapshots in a row -/

namespace Counters

/-- The passes over a counter that a number of snapshots makes: each snapshot goes on to the first
pass that agrees after those of the snapshots before it. -/
def passes (cs : Counters) : Nat → Counter → Nat
  | 0, _ => 0
  | n + 1, c => cs.settlesAt c (cs.passes n c) + 1

/-- The value that the `i`-th snapshot takes from a counter. -/
def sampled (cs : Counters) (i : Nat) (c : Counter) : UInt64 :=
  cs.valueAt c (cs.settlesAt c (cs.passes i c))

/-- The `i`-th snapshot. -/
def snapshotAt (cs : Counters) (i : Nat) : Snapshot := ⟨cs.sampled i .cycle, cs.sampled i .instret⟩

/-- The readings that the `i`-th snapshot makes of a counter. -/
def sampleEvents (cs : Counters) (i : Nat) (c : Counter) : List Event :=
  cs.eventsFrom c (cs.passes i c) (cs.passes (i + 1) c - cs.passes i c)

/-- The readings that the `i`-th snapshot makes. -/
def snapshotEvents (cs : Counters) (i : Nat) : List Event :=
  cs.sampleEvents i .cycle ++ cs.sampleEvents i .instret

/-- Every snapshot makes one pass over a counter, and all of them together at most one more for
every two answers of its high half. -/
theorem passes_le (cs : Counters) (n : Nat) (c : Counter) :
  cs.passes n c ≤ (cs.script c.high).size / 2 + n
  := by
  induction n with
  | zero => apply Nat.zero_le
  | succ n ih =>
    have hsettles := cs.settlesAt_le c (cs.passes n c)
    rw [passes]
    omega

end Counters

namespace Machine

variable {B : Type}

/-- Takes `n` snapshots, one after the other. -/
def snapshots : Nat → Action (Machine B) (List Snapshot)
  | 0 => return []
  | n + 1 => do
    let first ← snapshot
    let rest ← snapshots n
    return first :: rest

/-- A reading goes on with its counter where the snapshots before it have stopped. -/
theorem run_readCounter_of_made {made : Counter → Nat} {c : Counter} {i : Nat}
    (filter : LogFilter) (m : Machine B) (h : made c = m.counters.passes i c) :
  (readCounter c).run filter (m.withPasses made)
    = ⟨.ok (m.counters.sampled i c),
        m.withPasses (Function.update made c (m.counters.passes (i + 1) c)),
        m.counters.sampleEvents i c⟩
  := by
  rw [run_readCounter_withPasses, h]
  rfl

theorem run_snapshot_withPasses (i : Nat) (filter : LogFilter) (m : Machine B) :
  snapshot.run filter (m.withPasses (m.counters.passes i))
    = ⟨.ok (m.counters.snapshotAt i), m.withPasses (m.counters.passes (i + 1)),
        m.counters.snapshotEvents i⟩
  := by
  have hcycle := run_readCounter_of_made (c := .cycle) (i := i) filter m rfl
  -- The cycles were read, but not yet the instructions.
  have hleft : Function.update (m.counters.passes i) .cycle (m.counters.passes (i + 1) .cycle)
      .instret = m.counters.passes i .instret := rfl
  have hboth : Function.update
      (Function.update (m.counters.passes i) .cycle (m.counters.passes (i + 1) .cycle)) .instret
      (m.counters.passes (i + 1) .instret) = m.counters.passes (i + 1) := by
    funext c
    cases c <;> rfl
  have hinstret := run_readCounter_of_made filter m hleft
  rw [hboth] at hinstret
  rw [snapshot, Counters.snapshotEvents, ← List.append_nil (m.counters.sampleEvents i .instret)]
  apply run_bind_of_ok hcycle
  apply run_bind_of_ok hinstret
  apply run_pure

theorem run_snapshots_withPasses (n i : Nat) (filter : LogFilter) (m : Machine B) :
  (snapshots n).run filter (m.withPasses (m.counters.passes i))
    = ⟨.ok ((List.range' i n).map m.counters.snapshotAt),
        m.withPasses (m.counters.passes (i + n)),
        (List.range' i n).flatMap m.counters.snapshotEvents⟩
  := by
  induction n generalizing i with
  | zero => rfl
  | succ n ih =>
    rw [snapshots, List.range'_succ, List.map_cons, List.flatMap_cons, Nat.add_comm n 1,
      ← Nat.add_assoc]
    apply run_bind_of_ok (run_snapshot_withPasses i filter m)
    apply run_map_of_ok (m.counters.snapshotAt i :: ·) (ih (i + 1))

/-- Reading a counter ends with the first pass whose high halves agree.  Fewer passes find no
value.  There are at most one more of them than half the answers of the high half, and each uses
up two answers of the high half and one of the low half.  Snapshots in a row go on with each
counter where the snapshot before has stopped. -/
theorem counters_settle (filter : LogFilter) (m : Machine B) :
  (∀ c, ∃ k,
      IsLeast {k | m.counters.highHalf c (2 * k) = m.counters.highHalf c (2 * k + 1)} k
        ∧ k + 1 ≤ (m.counters.script c.high).size / 2 + 1
        ∧ (∀ n, n < k + 1 → ((readWithin c n).run filter m).result = .ok none)
        ∧ (∀ n, k + 1 ≤ n →
          (readWithin c n).run filter m = (some <$> readCounter c).run filter m)
        ∧ (readCounter c).run filter m
          = ⟨.ok (joinHalves (m.counters.highHalf c (2 * k)) (m.counters.lowHalf c k)),
              { m with counters := m.counters.advanced c (2 * k + 2) (k + 1) },
              m.counters.eventsFrom c 0 (k + 1)⟩)
    ∧ ∀ n,
      (snapshots n).run filter m
          = ⟨.ok ((List.range n).map m.counters.snapshotAt),
              m.withPasses (m.counters.passes n),
              (List.range n).flatMap m.counters.snapshotEvents⟩
        ∧ ∀ c, m.counters.passes n c ≤ (m.counters.script c.high).size / 2 + n
  := by
  constructor
  · intro c
    obtain ⟨⟨-, hagrees⟩, hleast⟩ := m.counters.isLeast_settlesAt c 0
    have hbound := m.counters.settlesAt_le c 0
    have hread := run_readCounter_withPasses (fun _ => 0) filter c m
    rw [withPasses_update] at hread
    use m.counters.settlesAt c 0
    refine ⟨⟨hagrees, fun k hk => hleast ⟨Nat.zero_le k, hk⟩⟩, by omega, ?_, ?_, hread⟩
    · intro n hn
      have hnone := run_readWithin_of_le (fun _ => 0) filter (n := n) (c := c) (m := m) (by omega)
      apply congrArg Outcome.result hnone
    · intro n hn
      apply run_readWithin_eq_readCounter fun _ => 0
      omega
  · intro n
    have hrun := run_snapshots_withPasses n 0 filter m
    rw [Nat.zero_add, ← List.range_eq_range'] at hrun
    use hrun
    apply m.counters.passes_le n

end Machine

end SandboxMonitor
