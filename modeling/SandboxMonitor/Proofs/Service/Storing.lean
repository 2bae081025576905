import SandboxMonitor.Proofs.Machine.Memory
import SandboxMonitor.Proofs.Service.Footprint

/-!
# What a service stores

A call stores at most one buffer in sandbox memory: an inference its result, if it is
delivered there, and a reading of the counters their values.  `Desk.stored?` says where and
which bytes, from the desk as it was when the call was made, and `Desk.memoryAfter` is the
memory that the call leaves.  The size of the instruction that called is looked up only then
(`Desk.gives_serve`).
-/

namespace SandboxMonitor

open SandboxMonitor.Action

variable {B : Type} {filter : LogFilter}

/-! ### The machine -/

/-- The values of both counters, read one after the other. -/
def Counters.snapshot (cs : Counters) : Snapshot :=
  ⟨(cs.readWide .cycle).value,
    ((cs.afterReading .cycle (cs.readWide .cycle)).readWide .instret).value⟩

namespace Machine

variable {m m' : Machine B}

theorem gives_peek {addr : UInt32} {length : Nat} {bytes : List UInt8}
    (h : Gives filter m (peek addr length) bytes m') :
  m.memory.read? addr length = some bytes ∧ m' = m
  := by
  rw [peek, gives_gets_bind] at h
  cases hread : m.memory.read? addr length with
  | none =>
    rw [hread] at h
    cases gives_stop h
  | some read =>
    rw [hread] at h
    obtain ⟨rfl, rfl⟩ := gives_pure.mp h
    exact ⟨rfl, rfl⟩

theorem gives_readUser {addr length : UInt32} {bytes : List UInt8}
    (h : Gives filter m (readUser addr length) bytes m') :
  m.memory.read? addr length.toNat = some bytes ∧ m' = m
  := by
  rw [readUser, gives_emit_bind] at h
  apply gives_peek h

theorem gives_writeUser {addr : UInt32} {bytes : List UInt8} {u : Unit}
    (h : Gives filter m (writeUser addr bytes) u m') :
  m' = { m with memory := m.memory.write addr bytes }
  := by
  rw [writeUser, gives_emit_bind, Gives, Action.run, poke] at h
  split at h
  · apply h.2.symm
  · cases h.1

/-- The hart resumes after the instruction that memory holds at the time. -/
theorem gives_skipInstruction {u : Unit} (h : Gives filter m skipInstruction u m') :
  ∃ length, m.memory.instructionLength? m.mepc = some length
    ∧ m' = { m with mepc := m.mepc + length }
  := by
  rw [skipInstruction, gives_gets_bind, fetchHalfword, gives_bind] at h
  obtain ⟨halfword, s, hfetch, hmodify⟩ := h
  rw [gives_bind] at hfetch
  obtain ⟨bytes, s', hpeek, hpure⟩ := hfetch
  obtain ⟨hread, rfl⟩ := gives_peek hpeek
  obtain ⟨rfl, rfl⟩ := gives_pure.mp hpure
  use instructionLength (.ofNat (littleEndian bytes))
  constructor
  · rw [Memory.instructionLength?, Memory.halfword?, hread, Option.map_some, Option.map_some]
  · apply gives_modify.mp hmodify

/-- A snapshot changes nothing but what the counters answer next. -/
theorem gives_snapshot {s : Snapshot} (h : Gives filter m snapshot s m') :
  s = m.counters.snapshot ∧ ∃ counters, m' = { m with counters }
  := by
  obtain ⟨hresult, rfl⟩ := h
  have hresult : Except.ok m.counters.snapshot = Except.ok s := hresult
  cases hresult
  exact ⟨rfl, _, rfl⟩

end Machine

/-! ### The services -/

namespace Desk

variable {d d' : Desk B} {α : Type}

/-- The desk with another machine. -/
def withMachine (d : Desk B) (machine : Machine B) : Desk B := { d with machine }

/-- The desk with counters that have been read. -/
def withCounters (d : Desk B) (counters : Counters) : Desk B :=
  d.withMachine { d.machine with counters }

theorem gives_onMachine {a : Action (Machine B) α} {v : α} :
  Gives filter d (onMachine a) v d'
    ↔ ∃ m, Gives filter d.machine a v m ∧ d' = d.withMachine m
  := gives_on

/-- What is stored for an answer of the engine. -/
def resultFor (d : Desk B) : Except InferenceError (List Int8) → List UInt8
  | .ok scores => resultBytes scores
  | .error _ => List.replicate resultLength d.sentinel

/-- What a call stores in sandbox memory, and where. -/
def stored? (d : Desk B) (call : Call) (arg0 arg1 : UInt32) : Option (UInt32 × List UInt8) :=
  match call with
  | .infer =>
    match d.checkInfer arg0 arg1, d.delivery, d.machine.memory.read? arg0 arg1.toNat with
    | .ok (), .resultBuffer addr, some input => some (addr, d.resultFor (d.engine.model input))
    | _, _, _ => none
  | .readCounters =>
    if arg0 = 0 then none
    else
      match d.checkCounters arg0 arg1 with
      | .ok () => some (arg0, d.machine.counters.snapshot.bytes)
      | .error _ => none
  | .putByte => none
  | .getByte => none

/-- The memory that a call leaves. -/
def memoryAfter (d : Desk B) (call : Call) (arg0 arg1 : UInt32) : Memory :=
  match d.stored? call arg0 arg1 with
  | some (addr, bytes) => d.machine.memory.write addr bytes
  | none => d.machine.memory

/-- Measuring an action reads counters before and after it. -/
theorem gives_profiled {a : Action (Desk B) α} {v : α} (h : Gives filter d (profiled a) v d') :
  ∃ counters d'' counters', Gives filter (d.withCounters counters) a v d''
    ∧ d' = d''.withCounters counters'
  := by
  rw [profiled, gives_keeps_bind] at h
  split at h
  · rw [gives_bind] at h
    obtain ⟨earlier, s, hearlier, h⟩ := h
    rw [gives_bind] at h
    obtain ⟨v', d'', ha, h⟩ := h
    rw [gives_bind] at h
    obtain ⟨later, s', hlater, h⟩ := h
    rw [gives_log_bind, gives_pure] at h
    obtain ⟨rfl, rfl⟩ := h
    obtain ⟨m, hm, rfl⟩ := gives_onMachine.mp hearlier
    obtain ⟨-, counters, rfl⟩ := Machine.gives_snapshot hm
    obtain ⟨m', hm', rfl⟩ := gives_onMachine.mp hlater
    obtain ⟨-, counters', rfl⟩ := Machine.gives_snapshot hm'
    exact ⟨counters, d'', counters', ha, rfl⟩
  · exact ⟨d.machine.counters, d', d'.machine.counters, h, rfl⟩

/-- Running the engine answers what its model makes of the input. -/
theorem gives_consult {input : List UInt8} {answer : Except InferenceError (List Int8)}
    (h : Gives filter d (consult input) answer d') :
  answer = d.engine.model input ∧ d' = { d with engine := d.engine.advance }
  := by
  rw [consult, gives_gets_bind, gives_emit_bind, gives_modify_bind, gives_pure] at h
  apply h

theorem gives_reply {answer : Except InferenceError (List Int8)} {u : Unit}
    (h : Gives filter d (reply answer) u d') :
  d' = d
  := by
  unfold reply warnFailure at h
  cases answer with
  | error e =>
    simp only [gives_log_bind, gives_emit_bind, gives_emit] at h
    apply h
  | ok scores =>
    dsimp only at h
    split at h
    · simp only [gives_emit_bind, gives_emit] at h
      apply h
    · simp only [gives_log_bind, gives_emit_bind, gives_emit] at h
      apply h

/-- The desk after an answer of the engine has been handed over. -/
def delivered (d : Desk B) (answer : Except InferenceError (List Int8)) : Desk B :=
  match d.delivery with
  | .forward => d
  | .resultBuffer addr =>
    d.withMachine { d.machine with memory := d.machine.memory.write addr (d.resultFor answer) }

theorem gives_deliver {answer : Except InferenceError (List Int8)} {u : Unit}
    (h : Gives filter d (deliver answer) u d') :
  d' = d.delivered answer
  := by
  rw [deliver, gives_gets_bind] at h
  rw [delivered]
  cases hdelivery : d.delivery with
  | forward =>
    rw [hdelivery] at h
    apply gives_reply h
  | resultBuffer addr =>
    rw [hdelivery] at h
    cases answer with
    | ok scores =>
      obtain ⟨m, hwrite, rfl⟩ := gives_onMachine.mp h
      obtain rfl := Machine.gives_writeUser hwrite
      rfl
    | error e =>
      simp only [warnFailure, gives_log_bind, gives_gets_bind] at h
      obtain ⟨m, hwrite, rfl⟩ := gives_onMachine.mp h
      obtain rfl := Machine.gives_writeUser hwrite
      rfl

/-- The call leaves sandbox memory as `memoryAfter` says, and the hart where it was. -/
def Leaves (d : Desk B) (call : Call) (arg0 arg1 : UInt32) (d' : Desk B) : Prop :=
  d'.machine.memory = d.memoryAfter call arg0 arg1 ∧ d'.machine.mepc = d.machine.mepc

/-- An inference that is accepted runs the engine on its input and hands over the answer. -/
theorem gives_infer {ptr length : UInt32} {answer : Except Rejection Unit}
    (h : Gives filter d (infer ptr length) answer d') :
  (∃ r, d.checkInfer ptr length = .error r ∧ answer = .error r ∧ d' = d)
    ∨ ∃ input counters, d.checkInfer ptr length = .ok () ∧ answer = .ok ()
      ∧ d.machine.memory.read? ptr length.toNat = some input
      ∧ d' = ({ d with engine := d.engine.advance }.withCounters counters).delivered
        (d.engine.model input)
  := by
  rw [infer, gives_gets_bind] at h
  cases hcheck : d.checkInfer ptr length with
  | error r =>
    rw [hcheck, gives_pure] at h
    left
    use r, rfl, h.1, h.2
  | ok u =>
    rw [hcheck] at h
    simp only [gives_log_bind] at h
    rw [gives_bind] at h
    obtain ⟨scores, s, hprofiled, h⟩ := h
    rw [gives_bind] at h
    obtain ⟨_, s', hdeliver, h⟩ := h
    obtain ⟨rfl, rfl⟩ := gives_pure.mp h
    obtain ⟨counters, s'', counters', hmeasured, rfl⟩ := gives_profiled hprofiled
    rw [gives_bind] at hmeasured
    obtain ⟨input, t, hread, hconsult⟩ := hmeasured
    obtain ⟨m, hreadUser, rfl⟩ := gives_onMachine.mp hread
    obtain ⟨hinput, rfl⟩ := Machine.gives_readUser hreadUser
    obtain ⟨rfl, rfl⟩ := gives_consult hconsult
    obtain rfl := gives_deliver hdeliver
    right
    exact ⟨input, counters', rfl, rfl, hinput, rfl⟩

theorem leaves_of_gives_infer {ptr length : UInt32} {answer : Except Rejection Unit}
    (h : Gives filter d (infer ptr length) answer d') :
  d.Leaves .infer ptr length d'
  := by
  rw [Leaves, memoryAfter, stored?]
  rcases gives_infer h with ⟨r, hcheck, -, rfl⟩ | ⟨input, counters, hcheck, -, hinput, rfl⟩
  · rw [hcheck]
    exact ⟨rfl, rfl⟩
  · rw [hcheck, hinput]
    cases hdelivery : d.delivery with
    | forward =>
      simp [delivered, withCounters, withMachine]
    | resultBuffer addr =>
      simp [delivered, withCounters, withMachine, resultFor]

theorem checkCounters_withMachine (d : Desk B) (machine : Machine B) (ptr length : UInt32) :
  (d.withMachine machine).checkCounters ptr length = d.checkCounters ptr length
  := rfl

/-- A reading of the counters is stored if it is given a buffer that is accepted. -/
theorem gives_readCounters {ptr length : UInt32} {answer : Except Rejection Unit}
    (h : Gives filter d (readCounters ptr length) answer d') :
  (((ptr = 0 ∧ answer = .ok ())
        ∨ ∃ r, ptr ≠ 0 ∧ d.checkCounters ptr length = .error r ∧ answer = .error r)
      ∧ ∃ counters, d' = d.withCounters counters)
    ∨ (ptr ≠ 0 ∧ d.checkCounters ptr length = .ok () ∧ answer = .ok () ∧ ∃ counters,
      d' = d.withMachine { d.machine with
        counters, memory := d.machine.memory.write ptr d.machine.counters.snapshot.bytes })
  := by
  rw [readCounters, gives_bind] at h
  obtain ⟨snapshot, s, hsnapshot, h⟩ := h
  obtain ⟨m, hm, rfl⟩ := gives_onMachine.mp hsnapshot
  obtain ⟨rfl, counters, rfl⟩ := Machine.gives_snapshot hm
  rw [gives_log_bind] at h
  split at h
  · rename_i hzero
    obtain ⟨rfl, rfl⟩ := gives_pure.mp h
    left
    use .inl ⟨hzero, rfl⟩, counters
    rfl
  · rename_i hpositive
    rw [gives_gets_bind, checkCounters_withMachine] at h
    cases hcheck : d.checkCounters ptr length with
    | error r =>
      rw [hcheck, gives_pure] at h
      obtain ⟨rfl, rfl⟩ := h
      left
      use .inr ⟨r, hpositive, rfl, rfl⟩, counters
      rfl
    | ok u =>
      rw [hcheck] at h
      rw [gives_bind] at h
      obtain ⟨_, t, hstore, h⟩ := h
      obtain ⟨rfl, rfl⟩ := gives_pure.mp h
      obtain ⟨m, hwrite, rfl⟩ := gives_onMachine.mp hstore
      obtain rfl := Machine.gives_writeUser hwrite
      right
      exact ⟨hpositive, rfl, rfl, counters, rfl⟩

theorem leaves_of_gives_readCounters {ptr length : UInt32} {answer : Except Rejection Unit}
    (h : Gives filter d (readCounters ptr length) answer d') :
  d.Leaves .readCounters ptr length d'
  := by
  rw [Leaves, memoryAfter, stored?]
  rcases gives_readCounters h with
    ⟨⟨rfl, -⟩ | ⟨r, -, hcheck, -⟩, counters, rfl⟩ | ⟨hpositive, hcheck, -, counters, rfl⟩
  · rw [if_pos rfl]
    exact ⟨rfl, rfl⟩
  · rw [hcheck]
    dsimp only
    rw [ite_self]
    exact ⟨rfl, rfl⟩
  · rw [if_neg hpositive, hcheck]
    exact ⟨rfl, rfl⟩

theorem leaves_of_gives_onLine {call : Call} {arg0 arg1 : UInt32} {a : Action SerialLine α}
    {v : α} (hcall : d.stored? call arg0 arg1 = none) (h : Gives filter d (onLine a) v d') :
  d.Leaves call arg0 arg1 d'
  := by
  obtain ⟨line, -, rfl⟩ := gives_on.mp h
  rw [Leaves, memoryAfter, hcall]
  exact ⟨rfl, rfl⟩

theorem leaves_of_gives_dispatch {call : Call} {arg0 arg1 : UInt32}
    {answer : Except Rejection (Option UInt32)}
    (h : Gives filter d (dispatch call arg0 arg1) answer d') :
  d.Leaves call arg0 arg1 d'
  := by
  cases call with
  | infer =>
    obtain ⟨_, s, hinfer, hpure⟩ := gives_bind.mp h
    obtain ⟨-, rfl⟩ := gives_pure.mp hpure
    apply leaves_of_gives_infer hinfer
  | putByte =>
    obtain ⟨_, s, hsend, hpure⟩ := gives_bind.mp h
    obtain ⟨-, rfl⟩ := gives_pure.mp hpure
    apply leaves_of_gives_onLine rfl hsend
  | getByte =>
    obtain ⟨_, s, hreceive, hpure⟩ := gives_bind.mp h
    obtain ⟨-, rfl⟩ := gives_pure.mp hpure
    apply leaves_of_gives_onLine rfl hreceive
  | readCounters =>
    obtain ⟨_, s, hread, hpure⟩ := gives_bind.mp h
    obtain ⟨-, rfl⟩ := gives_pure.mp hpure
    apply leaves_of_gives_readCounters hread

theorem gives_settleFrame {call : Call} {frame frame' : Registers}
    {answer : Except Rejection (Option UInt32)}
    (h : Gives filter d (settleFrame call frame answer) frame' d') :
  d' = d
  := by
  rcases answer with r | v | _
  · rw [settleFrame, gives_log_bind, gives_pure] at h
    apply h.2
  · rw [settleFrame, gives_pure] at h
    apply h.2
  · rw [settleFrame, gives_pure] at h
    apply h.2

/-- A call that is answered leaves the hart after an instruction of the size that the memory
which the call leaves has where the hart was. -/
theorem gives_serve {frame frame' : Registers}
    (h : Gives filter d (serve frame) (.ok frame') d') :
  ∃ call length, Call.ofId? (frame.get .a7) = some call
    ∧ (d.memoryAfter call (frame.get .a0) (frame.get .a1)).instructionLength? d.machine.mepc
      = some length
    ∧ d'.machine.mepc = d.machine.mepc + length
  := by
  rw [serve] at h
  cases hcall : Call.ofId? frame.request.id with
  | none =>
    rw [hcall, gives_gets_bind, gives_pure] at h
    cases h.1
  | some call =>
    simp only [hcall] at h
    rw [gives_log_bind, gives_bind] at h
    obtain ⟨answer, s, hdispatch, h⟩ := h
    rw [gives_bind] at h
    obtain ⟨settled, s', hsettle, h⟩ := h
    rw [gives_bind] at h
    obtain ⟨_, t, hskip, h⟩ := h
    rw [gives_bind] at h
    obtain ⟨_, t', hprevious, hpure⟩ := h
    obtain ⟨hmemory, hmepc⟩ := leaves_of_gives_dispatch hdispatch
    obtain rfl := gives_settleFrame hsettle
    obtain ⟨m, hm, rfl⟩ := gives_onMachine.mp hskip
    obtain ⟨length, hlength, rfl⟩ := Machine.gives_skipInstruction hm
    obtain ⟨m', hm', rfl⟩ := gives_onMachine.mp hprevious
    obtain rfl := gives_modify.mp hm'
    obtain ⟨-, rfl⟩ := gives_pure.mp hpure
    rw [hmemory, hmepc] at hlength
    use call, length, hcall, hlength
    apply congrArg (· + length) hmepc

/-- What is stored is a buffer of sixteen bytes that the window serves. -/
theorem serves_of_stored? {call : Call} {arg0 arg1 addr : UInt32} {bytes : List UInt8}
    (h : d.stored? call arg0 arg1 = some (addr, bytes)) :
  bytes.length = 16 ∧ d.window.Serves addr 16
  := by
  cases call with
  | putByte => cases h
  | getByte => cases h
  | readCounters =>
    rw [stored?] at h
    split at h
    · cases h
    · cases hcheck : d.checkCounters arg0 arg1 with
      | error r =>
        rw [hcheck] at h
        cases h
      | ok u =>
        rw [hcheck] at h
        cases h
        exact ⟨rfl, (checkCounters_eq_ok_iff.mp hcheck).2⟩
  | infer =>
    rw [stored?] at h
    split at h
    · rename_i hcheck hdelivery hinput
      cases h
      have hfits := (checkInfer_eq_ok_iff.mp hcheck).2
      rw [hdelivery] at hfits
      constructor
      · rw [resultFor.eq_def]
        split
        · rw [resultBytes, List.length_map, List.length_range]
          rfl
        · apply List.length_replicate
      · apply hfits
    · cases h

end Desk

end SandboxMonitor
