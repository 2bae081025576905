import SandboxMonitor.Proofs.Machine.Sampling
import SandboxMonitor.Proofs.Service.Inference
import SandboxMonitor.Proofs.Service.Rejecting

/-!
# Counters that the sandbox asks for

A call for the counters that is accepted takes one snapshot and stores it in sandbox memory: the
cycles and then the instructions, each as eight octets.  Since a snapshot of counters that run is
never torn, the sandbox reads what each counter held at one moment of the call
(`Clocks.stored_untorn`).
-/

namespace SandboxMonitor

open SandboxMonitor.Action

variable {B : Type}

/-! ### The octets of a snapshot -/

namespace Snapshot

/-- The octets of a 64-bit word give its number back. -/
theorem littleEndian_octets (w : UInt64) :
  littleEndian (octets w) = w.toNat
  := by
  have hlt := w.toNat_lt
  have hoctet : ∀ i : UInt64, (w >>> i).toUInt8.toNat = w.toNat / 2 ^ (i.toNat % 64) % 256 := by
    intro i
    rw [UInt64.toNat_toUInt8, UInt64.toNat_shiftRight, Nat.shiftRight_eq_div_pow]
  change (w >>> 0).toUInt8.toNat + 256 * ((w >>> 8).toUInt8.toNat
    + 256 * ((w >>> 16).toUInt8.toNat + 256 * ((w >>> 24).toUInt8.toNat
    + 256 * ((w >>> 32).toUInt8.toNat + 256 * ((w >>> 40).toUInt8.toNat
    + 256 * ((w >>> 48).toUInt8.toNat + 256 * ((w >>> 56).toUInt8.toNat + 256 * 0))))))) = w.toNat
  rw [hoctet, hoctet, hoctet, hoctet, hoctet, hoctet, hoctet, hoctet]
  change w.toNat / 2 ^ 0 % 256 + 256 * (w.toNat / 2 ^ 8 % 256 + 256 * (w.toNat / 2 ^ 16 % 256
    + 256 * (w.toNat / 2 ^ 24 % 256 + 256 * (w.toNat / 2 ^ 32 % 256 + 256 * (w.toNat / 2 ^ 40 % 256
    + 256 * (w.toNat / 2 ^ 48 % 256 + 256 * (w.toNat / 2 ^ 56 % 256 + 256 * 0))))))) = w.toNat
  omega

/-- The memory has the snapshot in the sixteen bytes at an address, and the rest of it is as
before. -/
structure StoredAt (s : Snapshot) (addr : UInt32) (before after : Memory) : Prop where
  stored : ∃ bytes, after.read? addr counterLength = some bytes
    ∧ littleEndian (bytes.take 8) = s.cycles.toNat
    ∧ littleEndian (bytes.drop 8) = s.instret.toNat
  others : ∀ a : UInt32, a.toNat < addr.toNat ∨ addr.toNat + counterLength ≤ a.toNat →
    after.byte? a = before.byte? a

theorem storedAt_write (s : Snapshot) {m : Memory} {addr : UInt32}
    (h : m.holds addr counterLength = true) :
  s.StoredAt addr m (m.write addr s.bytes)
  := by
  constructor
  · use s.bytes, Memory.read?_write_self h
    exact ⟨littleEndian_octets s.cycles, littleEndian_octets s.instret⟩
  · intro a ha
    apply m.byte?_write_of_apart ha

end Snapshot

/-! ### The call -/

/-- Log records are no readings. -/
theorem readings_of_isRecord {events : List Event} (h : ∀ e ∈ events, e.IsRecord) :
  readings events = []
  := by
  apply List.filterMap_eq_nil_iff.mpr
  intro e he
  obtain ⟨level, message, rfl⟩ := h e he
  rfl

/-- A store that memory does not hold stops the call. -/
theorem Machine.run_writeUser_of_not_holds {m : Machine B} (filter : LogFilter) {addr : UInt32}
    {bytes : List UInt8} (h : ¬ m.memory.holds addr bytes.length = true) :
  (writeUser addr bytes).run filter m
    = ⟨.error (.memoryFault addr bytes.length), m, [.write addr (.ofNat bytes.length)]⟩
  := by
  have hpoke : (poke addr bytes).run filter m = ⟨.error (.memoryFault addr bytes.length), m, []⟩ :=
    if_neg h
  rw [writeUser, run_bind, run_emit]
  simp only [hpoke]
  rfl

namespace Desk

variable {d : Desk B} {ptr length : UInt32}

/-- A call for the counters whose buffer is accepted takes a snapshot, logs it, and goes on as
storing it does. -/
theorem run_readCounters_of_store {filter : LogFilter} (hptr : ptr ≠ 0)
    (hchecked : d.checkCounters ptr length = .ok ()) {s : Snapshot} {m m' : Machine B}
    {before stored : List Event} {result : Except Stop Unit}
    (hsnapshot : Machine.snapshot.run filter d.machine = ⟨.ok s, m, before⟩)
    (hstore : (Machine.writeUser ptr s.bytes).run filter m = ⟨result, m', stored⟩) :
  ∃ records, (∀ e ∈ records, e.IsRecord)
    ∧ (dispatch .readCounters ptr length).run filter d
      = ⟨result.map fun _ => .ok none, d.withMachine m', before ++ (records ++ stored)⟩
  := by
  have hstore' : (Machine.writeUser ptr s.bytes).run filter (d.withMachine m).machine
      = ⟨result, m', stored⟩ := hstore
  rcases hrun : (dispatch .readCounters ptr length).run filter d with ⟨answer, d', events⟩
  rw [dispatch, readCounters] at hrun
  simp only [run_bind, run_onMachine, hsnapshot, run_log, if_neg hptr, run_gets,
    checkCounters_withMachine, hchecked, hstore'] at hrun
  cases result with
  | error why =>
    cases hrun
    refine ⟨_, ?_, rfl⟩
    apply forall_isRecord_log
  | ok u =>
    simp only [run_pure, List.append_nil] at hrun
    cases hrun
    refine ⟨_, ?_, rfl⟩
    apply forall_isRecord_log

/-- A call for the counters whose buffer is accepted and held stores a snapshot in it. -/
theorem run_readCounters_of_reaches (filter : LogFilter) (hptr : ptr ≠ 0)
    (hlong : counterLength ≤ length.toNat) (h : d.Reaches ptr (.ofNat counterLength)) :
  ∃ counters records,
    (∀ e ∈ records, e.IsRecord)
    ∧ (dispatch .readCounters ptr length).run filter d
      = ⟨.ok (.ok none),
          d.withMachine { d.machine with
            counters, memory := d.machine.memory.write ptr d.machine.counters.snapshot.bytes },
          (Machine.snapshot.run filter d.machine).events
            ++ (records ++ [.write ptr (.ofNat counterLength)])⟩
  := by
  obtain ⟨counters, before, hsnapshot, -⟩ := Machine.run_snapshot filter d.machine
  have hchecked : d.checkCounters ptr length = .ok () :=
    checkCounters_eq_ok_iff.mpr ⟨hlong, h.admitted, by decide⟩
  obtain ⟨records, hrecords, hrun⟩ := run_readCounters_of_store hptr hchecked hsnapshot
    (Machine.run_writeUser filter (m := { d.machine with counters }) h.held)
  use counters, records, hrecords
  rw [hrun, hsnapshot]
  rfl

/-- A call for the counters that is answered was given a buffer that can be reached. -/
theorem reaches_of_result_readCounters {filter : LogFilter} (hptr : ptr ≠ 0)
    (h : ((dispatch .readCounters ptr length).run filter d).result = .ok (.ok none)) :
  counterLength ≤ length.toNat ∧ d.Reaches ptr (.ofNat counterLength)
  := by
  obtain ⟨counters, before, hsnapshot, -⟩ := Machine.run_snapshot filter d.machine
  cases hchecked : d.checkCounters ptr length with
  | error r =>
    have hrejects := (checkCounters_eq_error_iff hptr).mp hchecked
    rw [(result_dispatch_eq_error_iff filter).mpr hrejects] at h
    cases h
  | ok u =>
    obtain ⟨hlong, hserves⟩ := checkCounters_eq_ok_iff.mp hchecked
    use hlong, hserves.1
    by_cases hheld : d.machine.memory.holds ptr counterLength = true
    · apply hheld
    · obtain ⟨records, -, hrun⟩ := run_readCounters_of_store hptr hchecked hsnapshot
        (Machine.run_writeUser_of_not_holds filter (m := { d.machine with counters }) hheld)
      rw [hrun] at h
      cases h

/-- A call for the counters reads them for its snapshot only. -/
theorem readings_readCounters (filter : LogFilter) (hptr : ptr ≠ 0)
    (hlong : counterLength ≤ length.toNat) (h : d.Reaches ptr (.ofNat counterLength)) :
  readings ((dispatch .readCounters ptr length).run filter d).events
    = readings (Machine.snapshot.run filter d.machine).events
  := by
  obtain ⟨counters, records, hrecords, hrun⟩ := run_readCounters_of_reaches filter hptr hlong h
  rw [hrun, readings_append, readings_append, readings_of_isRecord hrecords]
  apply List.append_nil

end Desk

/-! ### What the sandbox finds -/

namespace Clocks

open Desk

/-- A snapshot of counters that run takes each of them as it was when its low half was read for
the last time, and any counters that run can be read like that.  A call for the counters is answered
if its buffer is long enough and can be reached; then the sandbox finds in it just such a
snapshot, and the rest of memory is as it was. -/
theorem stored_untorn (clocks : Clocks) (start : Nat) :
  (∃ cs, ∀ filter (m : Machine B), m.counters = cs →
      clocks.Answers start (readings (Machine.snapshot.run filter m).events))
    ∧ (∀ filter (m : Machine B),
      clocks.Answers start (readings (Machine.snapshot.run filter m).events) →
      ∃ s, (Machine.snapshot.run filter m).result = .ok s
        ∧ clocks.Untorn start (readings (Machine.snapshot.run filter m).events) s)
    ∧ ∀ filter (d : Desk B) (ptr length : UInt32) answered, ptr ≠ 0 →
      (dispatch .readCounters ptr length).run filter d = answered →
      clocks.Answers start (readings answered.events) →
      (answered.result = .ok (.ok none)
          ↔ counterLength ≤ length.toNat ∧ d.Reaches ptr (.ofNat counterLength))
        ∧ (answered.result = .ok (.ok none) →
          ∃ s, clocks.Untorn start (readings answered.events) s
            ∧ s.StoredAt ptr d.machine.memory answered.state.machine.memory)
  := by
  use clocks.exists_answers_snapshot start
  use fun filter m => untorn_snapshot filter m
  rintro filter d ptr length _ hptr rfl hanswers
  constructor
  · constructor
    · apply reaches_of_result_readCounters hptr
    · rintro ⟨hlong, hreaches⟩
      obtain ⟨_, _, -, hrun⟩ := run_readCounters_of_reaches filter hptr hlong hreaches
      rw [hrun]
  · intro hresult
    obtain ⟨hlong, hreaches⟩ := reaches_of_result_readCounters hptr hresult
    rw [readings_readCounters filter hptr hlong hreaches] at hanswers ⊢
    obtain ⟨s, hsnapshot, huntorn⟩ := untorn_snapshot filter d.machine hanswers
    use s, huntorn
    obtain rfl : d.machine.counters.snapshot = s := Except.ok.inj hsnapshot
    obtain ⟨_, _, -, hrun⟩ := run_readCounters_of_reaches filter hptr hlong hreaches
    rw [hrun]
    apply Snapshot.storedAt_write
    apply hreaches.held

/-- A cycle counter that carries into its high half after its first reading, beside an instruction
counter that stands still. -/
def carrying : Clocks where
  value
    | .cycle, 0 => 0xFFFFFFFF
    | .cycle, _ + 1 => 0x100000000
    | .instret, _ => 7
  ascends := by
    intro c i j h
    cases c with
    | instret => apply UInt64.le_refl
    | cycle =>
      cases i with
      | zero =>
        cases j with
        | zero => apply UInt64.le_refl
        | succ j => exact (by decide : (0xFFFFFFFF : UInt64) ≤ 0x100000000)
      | succ i =>
        cases j with
        | zero => omega
        | succ j => apply UInt64.le_refl

/-- A desk whose registers answer as those counters do. -/
def carryingDesk : Desk RegisterBank :=
  { overlapping with
    machine := { overlapping.machine with counters := ⟨⟨[0]⟩, ⟨[0, 1]⟩, ⟨[7]⟩, ⟨[0]⟩⟩ } }

/-- The carry is noticed, and the value after it is stored. -/
theorem stored_untorn_carrying :
  ∃ d' events, (dispatch .readCounters 0x80100000 16).run (.upTo .info) carryingDesk
      = ⟨.ok (.ok none), d', events⟩
    ∧ Snapshot.StoredAt ⟨0x100000000, 7⟩ 0x80100000 carryingDesk.machine.memory d'.machine.memory
  := by
  have hreaches : carryingDesk.Reaches 0x80100000 (.ofNat counterLength) := ⟨by decide, by decide⟩
  have hreadings : readings ((dispatch .readCounters 0x80100000 16).run (.upTo .info)
        carryingDesk).events
      = [(.cycleHigh, 0), (.cycle, 0), (.cycleHigh, 1), (.cycleHigh, 1), (.cycle, 0),
        (.cycleHigh, 1), (.instretHigh, 0), (.instret, 7), (.instretHigh, 0)] := by
    rw [readings_readCounters _ (by decide) (by decide) hreaches, Machine.readings_snapshot]
    change (readStable ⟨[0, 1]⟩ ⟨[0]⟩).readings .cycle ++ (readStable ⟨[0]⟩ ⟨[7]⟩).readings .instret
      = _
    rw [readings_of_differ _ _ _ (by decide), readings_of_agree _ _ _ (by decide),
      readings_of_agree _ _ _ (by decide)]
    rfl
  rcases hrun : (dispatch .readCounters 0x80100000 16).run (.upTo .info) carryingDesk with
    ⟨result, d', events⟩
  rw [hrun] at hreadings
  have hanswers : carrying.Answers 0 (readings events) := by
    rw [hreadings]
    simp only [answers_cons, answers_nil, and_true]
    decide
  obtain ⟨haccepted, hstored⟩ := (stored_untorn carrying 0).2.2 (.upTo .info) carryingDesk
    0x80100000 16 _ (by decide) hrun hanswers
  have hresult := haccepted.mpr ⟨by decide, hreaches⟩
  obtain ⟨s, huntorn, hs⟩ := hstored hresult
  obtain rfl : result = .ok (.ok none) := hresult
  use d', events, rfl
  obtain ⟨k, ⟨before, value, after, hbefore, rfl, -⟩, hcycles⟩ := huntorn .cycle
  obtain ⟨_, -, hinstret⟩ := huntorn .instret
  cases before with
  | nil =>
    rw [hreadings] at hbefore
    cases hbefore
  | cons r before =>
    rw [List.length_cons, Nat.zero_add] at hcycles
    cases s
    cases hcycles
    cases hinstret
    apply hs

end Clocks

end SandboxMonitor
