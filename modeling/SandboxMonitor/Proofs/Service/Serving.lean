import SandboxMonitor.Proofs.Service.Storing

/-!
# Serving a call

`Desk.ServeStep` lists what serving a call can come to, whatever the log keeps: there is no such
call, or the call does not return, or it is answered and the hart resumes after the instruction
that called.  A call fails to return only where it accesses memory that is not there, or waits
for a byte on a line that has none (`Desk.stops_dispatch`), and it answers a value only if it is
a call for a byte (`Desk.answer_of_dispatch`).
-/

namespace SandboxMonitor

open SandboxMonitor.Action

/-- The event is a log record. -/
def Event.IsRecord (e : Event) : Prop := ∃ level message, e = .log level message

/-- An access that memory does not allow. -/
def Stop.IsFault (why : Stop) : Prop := ∃ addr length, why = .memoryFault addr length

/-- What a log keeps of a record. -/
theorem forall_isRecord_log {keeps : Bool} {level : LogLevel} {message : String} :
  ∀ e ∈ (if keeps then [Event.log level message] else []), e.IsRecord
  := by
  intro e he
  split at he
  · exact ⟨level, message, List.mem_singleton.mp he⟩
  · cases he

/-! ### The machine -/

namespace Machine

variable {B : Type} {m : Machine B}

theorem stopsFor_peek (addr : UInt32) (length : Nat) :
  (peek addr length : Action (Machine B) _).StopsFor Stop.IsFault
  := by
  rw [peek]
  apply StopsFor.bind (stopsFor_gets _)
  intro bytes
  cases bytes with
  | none => apply stopsFor_stop ⟨addr, length, rfl⟩
  | some bytes => apply stopsFor_pure

theorem stopsFor_readUser (addr length : UInt32) :
  (readUser addr length : Action (Machine B) _).StopsFor Stop.IsFault
  := by
  rw [readUser]
  apply StopsFor.bind (stopsFor_emit _)
  intro _
  apply stopsFor_peek

theorem stopsFor_poke (addr : UInt32) (bytes : List UInt8) :
  (poke addr bytes : Action (Machine B) _).StopsFor Stop.IsFault
  := by
  constructor
  intro filter m why h
  rw [Action.run, poke] at h
  split at h
  · cases h
  · cases h
    exact ⟨addr, bytes.length, rfl⟩

theorem stopsFor_writeUser (addr : UInt32) (bytes : List UInt8) :
  (writeUser addr bytes : Action (Machine B) _).StopsFor Stop.IsFault
  := by
  rw [writeUser]
  apply StopsFor.bind (stopsFor_emit _)
  intro _
  apply stopsFor_poke

/-- Counters can always be read. -/
theorem stopsFor_snapshot {S : Stop → Prop} :
  (snapshot : Action (Machine B) _).StopsFor S
  := by
  constructor
  intro filter m why h
  cases h

/-- Where no instruction can be fetched, the hart cannot move past it. -/
theorem run_skipInstruction_of_none (filter : LogFilter)
    (h : m.memory.instructionLength? m.mepc = none) :
  skipInstruction.run filter m = ⟨.error (.memoryFault m.mepc 2), m, []⟩
  := by
  rw [Memory.instructionLength?, Memory.halfword?, Option.map_map, Option.map_eq_none_iff] at h
  rw [skipInstruction, run_bind]
  simp only [run_gets, fetchHalfword, peek, run_bind, h, run_stop, List.nil_append]

end Machine

/-! ### The serial line -/

namespace SerialLine

/-- The byte that a reader gets, unless it waits for one. -/
def next? (line : SerialLine) : Option UInt8 :=
  match line.queue with
  | byte :: _ => some byte
  | [] => if line.waits then none else some 0

theorem next?_eq_none_iff {line : SerialLine} :
  line.next? = none ↔ line.queue = [] ∧ line.waits = true
  := by
  obtain ⟨queue, loopback, waits⟩ := line
  cases queue with
  | cons byte queue => simp [next?]
  | nil => simp [next?]

/-- The line when a byte has been taken from it. -/
def rest (line : SerialLine) : SerialLine := { line with queue := line.queue.tail }

theorem run_receive (filter : LogFilter) (line : SerialLine) :
  receive.run filter line
    = match line.next? with
      | some byte => ⟨.ok byte, line.rest, [.received byte]⟩
      | none => ⟨.error .idle, line, []⟩
  := by
  obtain ⟨queue, loopback, waits⟩ := line
  cases queue with
  | cons byte queue => rfl
  | nil => cases waits <;> rfl

end SerialLine

/-! ### The frame -/

namespace Registers

/-- The frame with the value that a call has answered, if it answers one. -/
def withAnswer (frame : Registers) : Option UInt32 → Registers
  | some v => frame.set .a0 v
  | none => frame

theorem get_withAnswer_of_ne (frame : Registers) (answer : Option UInt32) {r : Reg}
    (h : r ≠ .a0) :
  (frame.withAnswer answer).get r = frame.get r
  := by
  cases answer with
  | none => rfl
  | some v => apply get_set_of_ne _ _ h.symm

/-- The frame after a call, which is as it was if the call was rejected. -/
def settled (frame : Registers) : Except Rejection (Option UInt32) → Registers
  | .ok answer => frame.withAnswer answer
  | .error _ => frame

end Registers

namespace Desk

variable {B : Type} {filter : LogFilter} {d d' : Desk B} {frame : Registers} {call : Call}
  {arg0 arg1 : UInt32} {events : List Event}

/-! ### Calls that do not return -/

theorem stopsFor_onMachine {α : Type} {S : Stop → Prop} {a : Action (Machine B) α}
    (ha : a.StopsFor S) :
  (onMachine a).StopsFor S
  := ha.on _

theorem stopsFor_profiled {α : Type} {S : Stop → Prop} {a : Action (Desk B) α}
    (ha : a.StopsFor S) :
  (profiled a).StopsFor S
  := by
  rw [profiled]
  apply StopsFor.bind (stopsFor_keeps _)
  intro profiles
  cases profiles with
  | false => apply ha
  | true =>
    apply StopsFor.bind (stopsFor_onMachine Machine.stopsFor_snapshot)
    intro _
    apply StopsFor.bind ha
    intro _
    apply StopsFor.bind (stopsFor_onMachine Machine.stopsFor_snapshot)
    intro _
    apply StopsFor.bind (stopsFor_log _ _)
    intro _
    apply stopsFor_pure

/-- The engine always answers. -/
theorem stopsFor_consult {S : Stop → Prop} (input : List UInt8) :
  (consult input : Action (Desk B) _).StopsFor S
  := by
  constructor
  intro filter d why h
  cases h

theorem stopsFor_reply {S : Stop → Prop} (answer : Except InferenceError (List Int8)) :
  (reply answer : Action (Desk B) _).StopsFor S
  := by
  constructor
  intro filter d why h
  cases answer with
  | error e => cases h
  | ok scores =>
    rw [reply] at h
    split at h <;> cases h

theorem stopsFor_deliver (answer : Except InferenceError (List Int8)) :
  (deliver answer : Action (Desk B) _).StopsFor Stop.IsFault
  := by
  rw [deliver]
  apply StopsFor.bind (stopsFor_gets _)
  intro delivery
  cases delivery with
  | forward => apply stopsFor_reply
  | resultBuffer addr =>
    cases answer with
    | ok scores => apply stopsFor_onMachine (Machine.stopsFor_writeUser _ _)
    | error e =>
      apply StopsFor.bind (stopsFor_log _ _)
      intro _
      apply StopsFor.bind (stopsFor_gets _)
      intro _
      apply stopsFor_onMachine (Machine.stopsFor_writeUser _ _)

theorem stopsFor_infer (ptr length : UInt32) :
  (infer ptr length : Action (Desk B) _).StopsFor Stop.IsFault
  := by
  rw [infer]
  apply StopsFor.bind (stopsFor_gets _)
  intro checked
  cases checked with
  | error r => apply stopsFor_pure
  | ok u =>
    apply StopsFor.bind (stopsFor_log _ _)
    intro _
    apply StopsFor.bind
    · apply stopsFor_profiled
      apply StopsFor.bind (stopsFor_onMachine (Machine.stopsFor_readUser _ _))
      intro _
      apply stopsFor_consult
    · intro answer
      apply StopsFor.bind (stopsFor_deliver answer)
      intro _
      apply stopsFor_pure

theorem stopsFor_readCounters (ptr length : UInt32) :
  (readCounters ptr length : Action (Desk B) _).StopsFor Stop.IsFault
  := by
  rw [readCounters]
  apply StopsFor.bind (stopsFor_onMachine Machine.stopsFor_snapshot)
  intro _
  apply StopsFor.bind (stopsFor_log _ _)
  intro _
  split
  · apply stopsFor_pure
  · apply StopsFor.bind (stopsFor_gets _)
    intro checked
    cases checked with
    | error r => apply stopsFor_pure
    | ok u =>
      apply StopsFor.bind (stopsFor_onMachine (Machine.stopsFor_writeUser _ _))
      intro _
      apply stopsFor_pure

theorem run_onMachine {α : Type} (a : Action (Machine B) α) (filter : LogFilter) (d : Desk B) :
  (onMachine a).run filter d
    = ⟨(a.run filter d.machine).result, d.withMachine (a.run filter d.machine).state,
        (a.run filter d.machine).events⟩
  := rfl

theorem run_onLine {α : Type} (a : Action SerialLine α) (filter : LogFilter) (d : Desk B) :
  (onLine a).run filter d
    = ⟨(a.run filter d.line).result, { d with line := (a.run filter d.line).state },
        (a.run filter d.line).events⟩
  := rfl

/-- A call for a byte takes one from the line, or waits. -/
theorem run_dispatch_getByte (filter : LogFilter) (d : Desk B) (arg0 arg1 : UInt32) :
  (dispatch .getByte arg0 arg1).run filter d
    = match d.line.next? with
      | some byte => ⟨.ok (.ok (some byte.toUInt32)), { d with line := d.line.rest },
          [.received byte]⟩
      | none => ⟨.error .idle, d, []⟩
  := by
  rw [dispatch, run_bind, run_onLine, SerialLine.run_receive]
  cases d.line.next? with
  | some byte => rfl
  | none => rfl

/-- A call does not return only where memory is missing or, if it is for a byte, the byte. -/
theorem stops_dispatch {why : Stop}
    (h : (dispatch call arg0 arg1).run filter d = ⟨.error why, d', events⟩) :
  why.IsFault ∨ (call = .getByte ∧ d.line.next? = none ∧ why = .idle ∧ d' = d)
  := by
  cases call with
  | infer =>
    left
    have hstops : (dispatch .infer arg0 arg1 : Action (Desk B) _).StopsFor Stop.IsFault := by
      apply StopsFor.bind (stopsFor_infer arg0 arg1)
      intro _
      apply stopsFor_pure
    apply hstops.reason filter d why (congrArg Outcome.result h)
  | putByte => cases h
  | getByte =>
    right
    rw [run_dispatch_getByte] at h
    cases hnext : d.line.next? with
    | some byte =>
      rw [hnext] at h
      cases h
    | none =>
      rw [hnext] at h
      cases h
      exact ⟨rfl, rfl, rfl, rfl⟩
  | readCounters =>
    left
    have hstops : (dispatch .readCounters arg0 arg1 : Action (Desk B) _).StopsFor
        Stop.IsFault := by
      apply StopsFor.bind (stopsFor_readCounters arg0 arg1)
      intro _
      apply stopsFor_pure
    apply hstops.reason filter d why (congrArg Outcome.result h)

/-! ### Calls that return -/

/-- Only a call for a byte answers a value: the byte that it has taken from the line. -/
theorem answer_of_dispatch {answer : Except Rejection (Option UInt32)}
    (h : (dispatch call arg0 arg1).run filter d = ⟨.ok answer, d', events⟩) :
  (call = .getByte ∧ ∃ byte, d.line.next? = some byte ∧ answer = .ok (some byte.toUInt32)
      ∧ events = [.received byte])
    ∨ (call ≠ .getByte ∧ ∀ frame : Registers, frame.settled answer = frame)
  := by
  have hmap : ∀ result : Except Rejection Unit, ∀ frame : Registers,
      frame.settled (result.map fun _ => none) = frame := by
    intro result frame
    cases result <;> rfl
  cases call with
  | infer =>
    right
    use by decide
    obtain ⟨result, _, _, _, -, hpure, -⟩ := exists_of_run_bind_eq_ok h
    cases hpure
    apply hmap
  | putByte =>
    right
    use by decide
    cases h
    intro frame
    rfl
  | getByte =>
    left
    rw [run_dispatch_getByte] at h
    cases hnext : d.line.next? with
    | none =>
      rw [hnext] at h
      cases h
    | some byte =>
      rw [hnext] at h
      cases h
      exact ⟨rfl, byte, rfl, rfl, rfl⟩
  | readCounters =>
    right
    use by decide
    obtain ⟨result, _, _, _, -, hpure, -⟩ := exists_of_run_bind_eq_ok h
    cases hpure
    apply hmap

/-- The desk is as before but for the line, the engine, and the counters and memory of the
machine. -/
def Spares (d d' : Desk B) : Prop :=
  ∃ line engine counters memory,
    d' = { d with line, engine, machine := { d.machine with counters, memory } }

theorem Spares.refl (d : Desk B) :
  d.Spares d
  := ⟨_, _, _, _, rfl⟩

theorem spares_delivered (d : Desk B) (counters : Counters)
    (answer : Except InferenceError (List Int8)) :
  d.Spares (({ d with engine := d.engine.advance }.withCounters counters).delivered answer)
  := by
  rw [delivered]
  split
  · exact ⟨_, _, _, _, rfl⟩
  · exact ⟨_, _, _, _, rfl⟩

/-- A call that returns leaves all but the devices as it was. -/
theorem spares_of_gives_dispatch {answer : Except Rejection (Option UInt32)}
    (h : Gives filter d (dispatch call arg0 arg1) answer d') :
  d.Spares d'
  := by
  have honLine : ∀ {α : Type} {a : Action SerialLine α} {v : α} {s : Desk B},
      Gives filter d (onLine a) v s → d.Spares s := by
    intro α a v s hline
    obtain ⟨line, -, rfl⟩ := gives_on.mp hline
    exact ⟨_, _, _, _, rfl⟩
  cases call with
  | infer =>
    obtain ⟨_, s, hinfer, hpure⟩ := gives_bind.mp h
    obtain ⟨-, rfl⟩ := gives_pure.mp hpure
    rcases gives_infer hinfer with ⟨_, -, -, rfl⟩ | ⟨_, counters, -, -, -, rfl⟩
    · apply Spares.refl
    · apply spares_delivered
  | putByte =>
    obtain ⟨_, s, hsend, hpure⟩ := gives_bind.mp h
    obtain ⟨-, rfl⟩ := gives_pure.mp hpure
    apply honLine hsend
  | getByte =>
    obtain ⟨_, s, hreceive, hpure⟩ := gives_bind.mp h
    obtain ⟨-, rfl⟩ := gives_pure.mp hpure
    apply honLine hreceive
  | readCounters =>
    obtain ⟨_, s, hread, hpure⟩ := gives_bind.mp h
    obtain ⟨-, rfl⟩ := gives_pure.mp hpure
    rcases gives_readCounters hread with ⟨-, counters, rfl⟩ | ⟨-, -, -, counters, rfl⟩
    · exact ⟨_, _, _, _, rfl⟩
    · exact ⟨_, _, _, _, rfl⟩

/-- The desk when the hart is about to resume after an instruction of some length. -/
def resumed (d : Desk B) (length : UInt32) : Desk B :=
  d.withMachine { d.machine with mepc := d.machine.mepc + length, mpp := .user }

/-- What serving a call comes to.  The log records before and after the call are those that the
filter keeps. -/
inductive ServeStep (filter : LogFilter) (d : Desk B) (frame : Registers) :
    Outcome (Desk B) (Except FatalFault Registers) → Prop where
  /-- There is no such call. -/
  | unknown (hcall : Call.ofId? (frame.get .a7) = none) :
      ServeStep filter d frame
        ⟨.ok (.error (.unknownCall (frame.get .a7) d.machine.mepc)), d, []⟩
  /-- The call does not return. -/
  | stops {call : Call} {why : Stop} {d' : Desk B} {before events : List Event}
      (hcall : Call.ofId? (frame.get .a7) = some call)
      (hdispatch : (dispatch call (frame.get .a0) (frame.get .a1)).run filter d
        = ⟨.error why, d', events⟩)
      (hbefore : ∀ e ∈ before, e.IsRecord) :
      ServeStep filter d frame ⟨.error why, d', before ++ events⟩
  /-- The call is answered, but its instruction can no longer be fetched. -/
  | faults {call : Call} {answer : Except Rejection (Option UInt32)} {d' : Desk B}
      {before events after : List Event} (hcall : Call.ofId? (frame.get .a7) = some call)
      (hdispatch : (dispatch call (frame.get .a0) (frame.get .a1)).run filter d
        = ⟨.ok answer, d', events⟩)
      (hlength : d'.machine.memory.instructionLength? d'.machine.mepc = none)
      (hbefore : ∀ e ∈ before, e.IsRecord) (hafter : ∀ e ∈ after, e.IsRecord) :
      ServeStep filter d frame
        ⟨.error (.memoryFault d'.machine.mepc 2), d', before ++ events ++ after⟩
  /-- The call is answered and the hart resumes after its instruction. -/
  | resumes {call : Call} {answer : Except Rejection (Option UInt32)} {d' : Desk B}
      {before events after : List Event} {length : UInt32}
      (hcall : Call.ofId? (frame.get .a7) = some call)
      (hdispatch : (dispatch call (frame.get .a0) (frame.get .a1)).run filter d
        = ⟨.ok answer, d', events⟩)
      (hlength : d'.machine.memory.instructionLength? d'.machine.mepc = some length)
      (hbefore : ∀ e ∈ before, e.IsRecord) (hafter : ∀ e ∈ after, e.IsRecord) :
      ServeStep filter d frame
        ⟨.ok (.ok (frame.settled answer)), d'.resumed length, before ++ events ++ after⟩

/-- Settling the frame only logs a rejection. -/
theorem run_settleFrame (filter : LogFilter) (d : Desk B) (call : Call) (frame : Registers)
    (answer : Except Rejection (Option UInt32)) :
  ∃ events, (settleFrame call frame answer).run filter d = ⟨.ok (frame.settled answer), d, events⟩
    ∧ ∀ e ∈ events, e.IsRecord
  := by
  rcases answer with r | _ | v
  · refine ⟨_, rfl, ?_⟩
    intro e he
    apply forall_isRecord_log e
    simpa using he
  · exact ⟨[], rfl, List.forall_mem_nil _⟩
  · exact ⟨[], rfl, List.forall_mem_nil _⟩

/-- The hart goes on in user mode after an instruction that can be fetched. -/
theorem run_leave (filter : LogFilter) {α : Type} (v : α) {length : UInt32}
    (h : d.machine.memory.instructionLength? d.machine.mepc = some length) :
  (do
    onMachine Machine.skipInstruction
    onMachine (Machine.setPrevious .user)
    return v).run filter d
    = ⟨.ok v, d.resumed length, []⟩
  := by
  have hskip := run_onMachine Machine.skipInstruction filter d
  rw [Machine.run_skipInstruction filter h] at hskip
  rw [run_bind_of_ok hskip rfl]
  rfl

theorem run_leave_of_none (filter : LogFilter) {α : Type} (v : α)
    (h : d.machine.memory.instructionLength? d.machine.mepc = none) :
  (do
    onMachine Machine.skipInstruction
    onMachine (Machine.setPrevious .user)
    return v).run filter d
    = ⟨.error (.memoryFault d.machine.mepc 2), d, []⟩
  := by
  have hskip := run_onMachine Machine.skipInstruction filter d
  rw [Machine.run_skipInstruction_of_none filter h] at hskip
  rw [run_bind_of_error _ hskip]
  rfl

/-- Serving a call is one of the steps above. -/
theorem serve_step (filter : LogFilter) (d : Desk B) (frame : Registers) :
  ServeStep filter d frame ((serve frame).run filter d)
  := by
  rw [serve]
  cases hcall : Call.ofId? frame.request.id with
  | none => apply ServeStep.unknown hcall
  | some call =>
    rcases hdispatch : (dispatch call frame.request.arg0 frame.request.arg1).run filter d with
      ⟨why | answer, d', events⟩
    · dsimp only
      rw [run_bind_of_ok (run_log _ _ _ _) (run_bind_of_error _ hdispatch)]
      apply ServeStep.stops hcall hdispatch forall_isRecord_log
    · obtain ⟨warnings, hsettle, hwarnings⟩ := run_settleFrame filter d' call frame answer
      dsimp only
      cases hlength : d'.machine.memory.instructionLength? d'.machine.mepc with
      | none =>
        rw [run_bind_of_ok (run_log _ _ _ _) (run_bind_of_ok hdispatch
            (run_bind_of_ok hsettle (run_leave_of_none filter _ hlength))),
          List.append_nil, ← List.append_assoc]
        apply ServeStep.faults hcall hdispatch hlength forall_isRecord_log hwarnings
      | some length =>
        rw [run_bind_of_ok (run_log _ _ _ _) (run_bind_of_ok hdispatch
            (run_bind_of_ok hsettle (run_leave filter _ hlength))),
          List.append_nil, ← List.append_assoc]
        apply ServeStep.resumes hcall hdispatch hlength forall_isRecord_log hwarnings

end Desk

end SandboxMonitor
