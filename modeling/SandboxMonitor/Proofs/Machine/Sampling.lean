import Mathlib.Algebra.Group.Nat.Defs
import Mathlib.Tactic.Use
import SandboxMonitor.Machine.Basic

/-!
# Sampling a counter that runs

A counter of 64 bits can be read only by halves, and it runs on between two readings.  `Clocks`
are the values of both counters at every step, where each reading of a register is one step.  A
high half that is the same before and after the low half was read was the same in between, since
counters never run back, however often the low half has wrapped.  So what `readStable` puts
together is the value of the counter at the step of the last low half (`Clocks.value_readStable`).

The registers are read pass by pass, and a pass whose two high halves differ is made again
(`Machine.run_readCounter`).  Every pair of counters that run can be read: their high halves cannot
change for ever (`Clocks.exists_answers_snapshot`).
-/

namespace SandboxMonitor

open SandboxMonitor.Action

/-! ### The halves of a value -/

namespace CounterRegister

/-- The counter that a register belongs to. -/
def counter : CounterRegister → Counter
  | cycle => .cycle
  | cycleHigh => .cycle
  | instret => .instret
  | instretHigh => .instret

/-- The half of a counter's value that a register shows. -/
def half : CounterRegister → UInt64 → UInt32
  | cycle, w => w.toUInt32
  | cycleHigh, w => (w >>> 32).toUInt32
  | instret, w => w.toUInt32
  | instretHigh, w => (w >>> 32).toUInt32

end CounterRegister

namespace Counter

@[simp]
theorem counter_low (c : Counter) :
  c.low.counter = c
  := by
  cases c <;> rfl

@[simp]
theorem counter_high (c : Counter) :
  c.high.counter = c
  := by
  cases c <;> rfl

theorem toNat_half_low (c : Counter) (w : UInt64) :
  (c.low.half w).toNat = w.toNat % 2 ^ 32
  := by
  cases c <;> apply UInt64.toNat_toUInt32

theorem toNat_half_high (c : Counter) (w : UInt64) :
  (c.high.half w).toNat = w.toNat / 2 ^ 32
  := by
  have hlt := w.toNat_lt
  have hshift : (w >>> 32).toUInt32.toNat = w.toNat / 2 ^ 32 := by
    rw [UInt64.toNat_toUInt32, UInt64.toNat_shiftRight, Nat.shiftRight_eq_div_pow]
    apply Nat.mod_eq_of_lt
    change w.toNat / 2 ^ 32 < 2 ^ 32
    omega
  cases c <;> apply hshift

end Counter

theorem toNat_joinHalves (high low : UInt32) :
  (joinHalves high low).toNat = 2 ^ 32 * high.toNat + low.toNat
  := by
  have hhigh := high.toNat_lt
  have hfits : high.toNat <<< 32 < 2 ^ 64 := by
    rw [Nat.shiftLeft_eq]
    omega
  rw [joinHalves, UInt64.toNat_or, UInt64.toNat_shiftLeft, UInt32.toNat_toUInt64,
    UInt32.toNat_toUInt64]
  change high.toNat <<< 32 % 2 ^ 64 ||| low.toNat = _
  rw [Nat.mod_eq_of_lt hfits, Nat.shiftLeft_eq, Nat.mul_comm,
    ← Nat.two_pow_add_eq_or_of_lt low.toNat_lt]

/-! ### Readings -/

/-- The register that was read and what it answered, if the event is a reading. -/
def Event.reading? : Event → Option (CounterRegister × UInt32)
  | .counter register value => some (register, value)
  | _ => none

/-- The readings of counter registers among some events, in their order. -/
def readings (events : List Event) : List (CounterRegister × UInt32) :=
  events.filterMap Event.reading?

theorem readings_append (events later : List Event) :
  readings (events ++ later) = readings events ++ readings later
  := List.filterMap_append

/-- The `k`-th of some readings is the last one of a register. -/
def LastReading (rs : List (CounterRegister × UInt32)) (register : CounterRegister) (k : Nat) :
    Prop :=
  ∃ before value after, rs = before ++ (register, value) :: after ∧ before.length = k
    ∧ ∀ v, (register, v) ∉ after

namespace LastReading

variable {rs : List (CounterRegister × UInt32)} {register : CounterRegister} {k : Nat}

/-- What was read before counts as steps. -/
theorem append_left (h : LastReading rs register k) (earlier : List (CounterRegister × UInt32)) :
  LastReading (earlier ++ rs) register (earlier.length + k)
  := by
  obtain ⟨before, value, after, rfl, rfl, hlast⟩ := h
  refine ⟨earlier ++ before, value, after, ?_, List.length_append, hlast⟩
  rw [List.append_assoc]

/-- Readings of other registers may follow. -/
theorem append_right (h : LastReading rs register k) {later : List (CounterRegister × UInt32)}
    (hlater : ∀ v, (register, v) ∉ later) :
  LastReading (rs ++ later) register k
  := by
  obtain ⟨before, value, after, rfl, hlength, hlast⟩ := h
  refine ⟨before, value, after ++ later, ?_, hlength, ?_⟩
  · rw [List.append_assoc, List.cons_append]
  · intro v hv
    rcases List.mem_append.mp hv with hafter | hv
    · apply hlast v hafter
    · apply hlater v hv

end LastReading

/-- The readings that reading a whole counter makes. -/
def WideReading.readings (r : WideReading) (c : Counter) : List (CounterRegister × UInt32) :=
  r.passes.flatMap fun (before, middle, after) =>
    [(c.high, before), (c.low, middle), (c.high, after)]

theorem readings_events (r : WideReading) (c : Counter) :
  readings (r.events c) = r.readings c
  := by
  rw [readings, WideReading.events, List.filterMap_flatMap]
  rfl

/-- Reading a whole counter reads no other counter. -/
theorem WideReading.counter_of_mem {r : WideReading} {c : Counter} {register : CounterRegister}
    {value : UInt32} (h : (register, value) ∈ r.readings c) :
  register.counter = c
  := by
  obtain ⟨⟨before, middle, after⟩, -, hpass⟩ := List.mem_flatMap.mp h
  simp only [List.mem_cons, Prod.mk.injEq, List.not_mem_nil, or_false] at hpass
  rcases hpass with ⟨rfl, -⟩ | ⟨rfl, -⟩ | ⟨rfl, -⟩
  · apply Counter.counter_high
  · apply Counter.counter_low
  · apply Counter.counter_high

/-- Where the high halves of the first pass agree there is no other pass. -/
theorem readings_of_agree (high low : Script UInt32) (c : Counter)
    (h : high.advance.head 0 = high.head 0) :
  (readStable high low).readings c
    = [(c.high, high.head 0), (c.low, low.head 0), (c.high, high.advance.head 0)]
  := by
  rw [readStable, dif_pos h]
  rfl

/-- Where the high halves of the first pass differ the other passes follow. -/
theorem readings_of_differ (high low : Script UInt32) (c : Counter)
    (h : ¬ high.advance.head 0 = high.head 0) :
  (readStable high low).readings c
    = [(c.high, high.head 0), (c.low, low.head 0), (c.high, high.advance.head 0)]
      ++ (readStable high.advance.advance low.advance).readings c
  := by
  rw [readStable, dif_neg h, WideReading.readings, List.flatMap_cons]
  rfl

/-- The counters after one pass. -/
def Counters.afterPass (cs : Counters) (c : Counter) : Counters :=
  (cs.withScript c.high (cs.script c.high).advance.advance).withScript c.low
    (cs.script c.low).advance

namespace Machine

variable {B : Type}

/-- A pass reads the high half, the low half and the high half again. -/
theorem run_pass {α : Type} (c : Counter) (next : UInt32 → UInt32 → UInt32 → Action (Machine B) α)
    (filter : LogFilter) (m : Machine B) :
  (do
      let before ← readRegister c.high
      let middle ← readRegister c.low
      let after ← readRegister c.high
      next before middle after).run filter m
    = (do
        emit (.counter c.high ((m.counters.script c.high).head 0))
        emit (.counter c.low ((m.counters.script c.low).head 0))
        emit (.counter c.high ((m.counters.script c.high).advance.head 0))
        next ((m.counters.script c.high).head 0) ((m.counters.script c.low).head 0)
          ((m.counters.script c.high).advance.head 0)).run filter
      { m with counters := m.counters.afterPass c }
  := by
  cases c <;> rfl

/-- Reading a whole counter makes one pass, and more of them unless the high halves agree. -/
theorem run_readCounter (c : Counter) (filter : LogFilter) (m : Machine B) :
  (readCounter c).run filter m
    = (do
        let before ← readRegister c.high
        let middle ← readRegister c.low
        let after ← readRegister c.high
        if after = before then return joinHalves before middle
        else readCounter c : Action (Machine B) UInt64).run filter m
  := by
  have hread : ∀ m : Machine B, (readCounter c).run filter m
      = ⟨.ok (m.counters.readWide c).value,
          { m with counters := m.counters.afterReading c (m.counters.readWide c) },
          (m.counters.readWide c).events c⟩ := fun _ => rfl
  rw [run_pass, hread, Counters.readWide, readStable]
  split
  · cases c <;> rfl
  · cases c <;> rfl

end Machine

/-- A snapshot reads the cycles and then the instructions. -/
theorem Machine.readings_snapshot {B : Type} (filter : LogFilter) (m : Machine B) :
  readings (snapshot.run filter m).events
    = (m.counters.readWide .cycle).readings .cycle
      ++ ((m.counters.afterReading .cycle (m.counters.readWide .cycle)).readWide .instret).readings
        .instret
  := by
  change readings ((m.counters.readWide .cycle).events .cycle
    ++ (((m.counters.afterReading .cycle (m.counters.readWide .cycle)).readWide .instret).events
      .instret ++ [])) = _
  rw [List.append_nil, readings_append, readings_events, readings_events]

/-- The value of a counter. -/
def Snapshot.value (s : Snapshot) : Counter → UInt64
  | .cycle => s.cycles
  | .instret => s.instret

/-! ### Counters that run -/

/-- The values of the counters at every step; they never decrease. -/
structure Clocks where
  value : Counter → Nat → UInt64
  ascends : ∀ c i j, i ≤ j → value c i ≤ value c j

namespace Clocks

variable {clocks : Clocks} {c : Counter} {k : Nat}

/-- What a register answers at a step. -/
def answer (clocks : Clocks) (k : Nat) (register : CounterRegister) : UInt32 :=
  register.half (clocks.value register.counter k)

/-- The readings are answered by the clocks, one step after the other. -/
def Answers (clocks : Clocks) (start : Nat) (rs : List (CounterRegister × UInt32)) : Prop :=
  ∀ k register value, rs[k]? = some (register, value) → value = clocks.answer (start + k) register

theorem answers_nil (start : Nat) :
  clocks.Answers start []
  := by
  intro k register value h
  cases h

theorem answers_cons {start : Nat} {register : CounterRegister} {value : UInt32}
    {rs : List (CounterRegister × UInt32)} :
  clocks.Answers start ((register, value) :: rs)
    ↔ value = clocks.answer start register ∧ clocks.Answers (start + 1) rs
  := by
  constructor
  · intro h
    constructor
    · apply h 0 register value rfl
    · intro k r v hk
      rw [Nat.add_assoc, Nat.add_comm 1]
      apply h (k + 1) r v hk
  · rintro ⟨hfirst, hrest⟩ k r v hk
    cases k with
    | zero =>
      cases hk
      apply hfirst
    | succ k =>
      rw [Nat.add_comm k, ← Nat.add_assoc]
      apply hrest k r v hk

theorem answers_append {start : Nat} {rs rs' : List (CounterRegister × UInt32)} :
  clocks.Answers start (rs ++ rs')
    ↔ clocks.Answers start rs ∧ clocks.Answers (start + rs.length) rs'
  := by
  induction rs generalizing start with
  | nil => simp [answers_nil]
  | cons r rs ih =>
    rw [List.cons_append, answers_cons, answers_cons, ih, List.length_cons, and_assoc,
      Nat.add_assoc, Nat.add_comm 1]

/-- A pass is answered by the clocks. -/
theorem answers_pass {before middle after : UInt32} :
  clocks.Answers k [(c.high, before), (c.low, middle), (c.high, after)]
    ↔ before = clocks.answer k c.high ∧ middle = clocks.answer (k + 1) c.low
      ∧ after = clocks.answer (k + 2) c.high
  := by
  simp only [answers_cons, answers_nil, and_true]

theorem toNat_answer_high (clocks : Clocks) (c : Counter) (k : Nat) :
  (clocks.answer k c.high).toNat = (clocks.value c k).toNat / 2 ^ 32
  := by
  rw [answer, c.counter_high, c.toNat_half_high]

theorem toNat_value_le (clocks : Clocks) (c : Counter) {i j : Nat} (h : i ≤ j) :
  (clocks.value c i).toNat ≤ (clocks.value c j).toNat
  := UInt64.le_iff_toNat_le.mp (clocks.ascends c i j h)

/-- A high half that is the same before and after belongs to the low half in between. -/
theorem joinHalves_eq (h : clocks.answer (k + 2) c.high = clocks.answer k c.high) :
  joinHalves (clocks.answer k c.high) (clocks.answer (k + 1) c.low) = clocks.value c (k + 1)
  := by
  have hends : (clocks.value c (k + 2)).toNat / 2 ^ 32 = (clocks.value c k).toNat / 2 ^ 32 := by
    rw [← toNat_answer_high, ← toNat_answer_high, h]
  have hfirst := Nat.div_le_div_right (c := 2 ^ 32)
    (clocks.toNat_value_le c (show k ≤ k + 1 by omega))
  have hsecond := Nat.div_le_div_right (c := 2 ^ 32)
    (clocks.toNat_value_le c (show k + 1 ≤ k + 2 by omega))
  rw [← UInt64.toNat_inj, toNat_joinHalves, toNat_answer_high, answer, c.counter_low,
    c.toNat_half_low]
  omega

/-- A counter that runs is read as it was when its low half was read for the last time. -/
theorem value_readStable {start : Nat} (high low : Script UInt32)
    (h : clocks.Answers start ((readStable high low).readings c)) :
  ∃ k, LastReading ((readStable high low).readings c) c.low k
    ∧ (readStable high low).value = clocks.value c (start + k)
  := by
  -- Each pass that fails takes three steps.
  induction high, low using readStable.induct generalizing start with
  | case1 high low _ _ =>
    rename_i hagree
    rw [readings_of_agree high low c hagree] at h ⊢
    obtain ⟨hbefore, hmiddle, hafter⟩ := answers_pass.mp h
    use 1
    constructor
    · refine ⟨[(c.high, high.head 0)], low.head 0, [(c.high, high.advance.head 0)], rfl, rfl, ?_⟩
      cases c <;> simp [Counter.low, Counter.high]
    · rw [readStable, dif_pos hagree]
      dsimp only
      rw [hbefore, hmiddle]
      apply joinHalves_eq
      rw [← hafter, ← hbefore]
      apply hagree
  | case2 high low _ _ hdiffer =>
    rename_i ih
    rw [readings_of_differ high low c hdiffer, answers_append] at h
    obtain ⟨k, hlast, hvalue⟩ := ih h.2
    use 3 + k
    constructor
    · rw [readings_of_differ high low c hdiffer]
      apply hlast.append_left
    · rw [readStable, dif_neg hdiffer]
      dsimp only
      rw [hvalue, Nat.add_assoc]
      rfl

/-- High halves cannot change between every two readings. -/
theorem exists_agree (clocks : Clocks) (c : Counter) (k : Nat) :
  ∃ n, clocks.answer (k + 3 * n + 2) c.high = clocks.answer (k + 3 * n) c.high
  := by
  apply Classical.byContradiction
  intro hnone
  -- Else the high half has grown by one with every pass.
  have hgrows : ∀ n, n ≤ (clocks.answer (k + 3 * n) c.high).toNat := by
    intro n
    induction n with
    | zero => apply Nat.zero_le
    | succ n ih =>
      have hchanged : clocks.answer (k + 3 * n + 2) c.high ≠ clocks.answer (k + 3 * n) c.high :=
        fun h => hnone ⟨n, h⟩
      rw [Ne, ← UInt32.toNat_inj] at hchanged
      simp only [toNat_answer_high] at ih hchanged ⊢
      have hfirst := Nat.div_le_div_right (c := 2 ^ 32)
        (clocks.toNat_value_le c (show k + 3 * n ≤ k + 3 * n + 2 by omega))
      have hsecond := Nat.div_le_div_right (c := 2 ^ 32)
        (clocks.toNat_value_le c (show k + 3 * n + 2 ≤ k + 3 * (n + 1) by omega))
      omega
  have hlarge := hgrows (2 ^ 32)
  have hlt := (clocks.answer (k + 3 * 2 ^ 32) c.high).toNat_lt
  omega

theorem exists_answers_of_agree {start : Nat}
    (h : clocks.answer (start + 2) c.high = clocks.answer start c.high) :
  ∃ high low : List UInt32, high ≠ [] ∧ low ≠ []
    ∧ clocks.Answers start ((readStable ⟨high⟩ ⟨low⟩).readings c)
  := by
  use [clocks.answer start c.high, clocks.answer (start + 2) c.high],
    [clocks.answer (start + 1) c.low], List.cons_ne_nil _ _, List.cons_ne_nil _ _
  rw [readings_of_agree ⟨[clocks.answer start c.high, clocks.answer (start + 2) c.high]⟩ ⟨[_]⟩ c h]
  apply answers_pass.mpr ⟨rfl, rfl, rfl⟩

/-- The registers of a counter can answer as the clocks say until the counter has been read. -/
theorem exists_answers_readStable (clocks : Clocks) (c : Counter) (start : Nat) :
  ∃ high low, clocks.Answers start ((readStable high low).readings c)
  := by
  obtain ⟨n, hagree⟩ := clocks.exists_agree c start
  suffices h : ∃ high low : List UInt32, high ≠ [] ∧ low ≠ []
      ∧ clocks.Answers start ((readStable ⟨high⟩ ⟨low⟩).readings c) by
    obtain ⟨high, low, -, -, h⟩ := h
    use ⟨high⟩, ⟨low⟩
  induction n generalizing start with
  | zero => apply exists_answers_of_agree hagree
  | succ n ih =>
    by_cases hfirst : clocks.answer (start + 2) c.high = clocks.answer start c.high
    · apply exists_answers_of_agree hfirst
    · have hstep : start + 3 * (n + 1) = start + 3 + 3 * n := by omega
      rw [hstep] at hagree
      obtain ⟨high, low, hhigh, hlow, hrest⟩ := ih (start + 3) hagree
      use clocks.answer start c.high :: clocks.answer (start + 2) c.high :: high,
        clocks.answer (start + 1) c.low :: low, List.cons_ne_nil _ _, List.cons_ne_nil _ _
      obtain ⟨_, _, rfl⟩ := List.exists_cons_of_ne_nil hhigh
      obtain ⟨_, _, rfl⟩ := List.exists_cons_of_ne_nil hlow
      rw [readings_of_differ
        ⟨clocks.answer start c.high :: clocks.answer (start + 2) c.high :: _ :: _⟩ ⟨_ :: _ :: _⟩ c
        hfirst, answers_append]
      use answers_pass.mpr ⟨rfl, rfl, rfl⟩, hrest

/-! ### Both counters -/

/-- The value of a counter in the snapshot is the one that the counter had when its low half was
read for the last time. -/
def Untorn (clocks : Clocks) (start : Nat) (rs : List (CounterRegister × UInt32)) (s : Snapshot) :
    Prop :=
  ∀ c, ∃ k, LastReading rs c.low k ∧ s.value c = clocks.value c (start + k)

section Snapshot

variable {B : Type} {start : Nat}

/-- A snapshot of counters that run takes each of them as it was at one moment. -/
theorem untorn_snapshot (filter : LogFilter) (m : Machine B)
    (h : clocks.Answers start (readings (Machine.snapshot.run filter m).events)) :
  ∃ s, (Machine.snapshot.run filter m).result = .ok s
    ∧ clocks.Untorn start (readings (Machine.snapshot.run filter m).events) s
  := by
  rw [Machine.readings_snapshot] at h ⊢
  rw [answers_append] at h
  refine ⟨_, rfl, ?_⟩
  intro c
  cases c with
  | cycle =>
    obtain ⟨k, hlast, hvalue⟩ := value_readStable _ _ h.1
    use k, hlast.append_right ?_, hvalue
    intro v hv
    cases WideReading.counter_of_mem hv
  | instret =>
    obtain ⟨k, hlast, hvalue⟩ := value_readStable _ _ h.2
    refine ⟨_, hlast.append_left _, ?_⟩
    rw [← Nat.add_assoc]
    apply hvalue

/-- The registers of both counters can answer as the clocks say until a snapshot is taken. -/
theorem exists_answers_snapshot (clocks : Clocks) (start : Nat) :
  ∃ cs, ∀ filter (m : Machine B), m.counters = cs →
    clocks.Answers start (readings (Machine.snapshot.run filter m).events)
  := by
  obtain ⟨cycleHigh, cycle, hcycle⟩ := clocks.exists_answers_readStable .cycle start
  obtain ⟨instretHigh, instret, hinstret⟩ := clocks.exists_answers_readStable .instret
    (start + ((readStable cycleHigh cycle).readings .cycle).length)
  use ⟨cycle, cycleHigh, instret, instretHigh⟩
  intro filter m hm
  rw [Machine.readings_snapshot, hm]
  apply answers_append.mpr ⟨hcycle, hinstret⟩

end Snapshot

end Clocks

end SandboxMonitor
