import SandboxMonitor.Proofs.Service.Serving

/-!
# Rejected calls

`DataWindow.Rejects` lists the ways in which a call is rejected, with the reasons that are given.
They depend on the arguments of the call, the window and the delivery alone, and these are all
the ways there are (`Desk.result_dispatch_eq_error_iff`).  A call that is rejected has at most
read the counters, and that only if it is a call for them (`Desk.run_dispatch_of_rejects`).
-/

namespace SandboxMonitor

open SandboxMonitor.Action

variable {B : Type}

/-- The event is a reading of a counter register. -/
def Event.IsReading (e : Event) : Prop := ∃ register value, e = .counter register value

/-- A snapshot reads the counters and does nothing else. -/
theorem Machine.run_snapshot (filter : LogFilter) (m : Machine B) :
  ∃ counters events,
    snapshot.run filter m = ⟨.ok m.counters.snapshot, { m with counters }, events⟩
    ∧ ∀ e ∈ events, e.IsReading
  := by
  refine ⟨_, _, rfl, ?_⟩
  have hconfined : (snapshot : Action (Machine B) _).Confined (HasBank m.bank) Event.IsReading := by
    apply confined_snapshot
    intro register value
    exact ⟨register, value, rfl⟩
  apply (hconfined filter m rfl).2

/-- The calls that are rejected for their arguments, each with the reason. -/
inductive DataWindow.Rejects (w : DataWindow) (delivery : Delivery) (ptr length : UInt32) :
    Call → Rejection → Prop where
  /-- There is no input. -/
  | emptyInput (hempty : length = 0) : Rejects w delivery ptr length .infer .emptyBuffer
  /-- The input is not in the window. -/
  | input (hpositive : length ≠ 0) (houtside : w.admits ptr length = false) :
      Rejects w delivery ptr length .infer (.outOfWindow ptr length)
  /-- The result is to go to a buffer that is not in the window. -/
  | result {addr : UInt32} (hpositive : length ≠ 0) (hinput : w.admits ptr length = true)
      (hdelivery : delivery = .resultBuffer addr)
      (houtside : w.admits addr (.ofNat resultLength) = false) :
      Rejects w delivery ptr length .infer (.resultBufferOutOfWindow addr)
  /-- There is no room for the counters. -/
  | shortBuffer (hptr : ptr ≠ 0) (hshort : length.toNat < counterLength) :
      Rejects w delivery ptr length .readCounters (.shortCounterBuffer length)
  /-- The counters are to go to a place that is not in the window. -/
  | counters (hptr : ptr ≠ 0) (hlong : counterLength ≤ length.toNat)
      (houtside : w.admits ptr (.ofNat counterLength) = false) :
      Rejects w delivery ptr length .readCounters (.outOfWindow ptr (.ofNat counterLength))

theorem DataWindow.check_eq_error_iff {w : DataWindow} {ptr length : UInt32} {r : Rejection} :
  w.check ptr length = .error r ↔ w.admits ptr length = false ∧ r = .outOfWindow ptr length
  := by
  rw [check]
  cases w.admits ptr length with
  | true => simp
  | false => simp [eq_comm]

namespace Desk

variable {filter : LogFilter} {d : Desk B} {ptr length : UInt32} {call : Call} {r : Rejection}

theorem checkDelivery_eq_error_iff :
  d.checkDelivery = .error r
    ↔ ∃ addr, d.delivery = .resultBuffer addr
      ∧ d.window.admits addr (.ofNat resultLength) = false ∧ r = .resultBufferOutOfWindow addr
  := by
  rw [checkDelivery]
  cases d.delivery with
  | forward => simp
  | resultBuffer addr =>
    dsimp only
    cases hadmits : d.window.admits addr (.ofNat resultLength) with
    | true =>
      rw [DataWindow.check_eq_ok_iff.mpr hadmits]
      constructor
      · intro h
        cases h
      · rintro ⟨_, ⟨⟩, houtside, -⟩
        rw [hadmits] at houtside
        cases houtside
    | false =>
      rw [DataWindow.check_eq_error_iff.mpr ⟨hadmits, rfl⟩]
      constructor
      · intro h
        cases h
        use addr, rfl, hadmits
      · rintro ⟨_, ⟨⟩, -, rfl⟩
        rfl

theorem checkInfer_eq_error_iff :
  d.checkInfer ptr length = .error r ↔ d.window.Rejects d.delivery ptr length .infer r
  := by
  rw [checkInfer]
  constructor
  · intro h
    split at h
    · rename_i hempty
      cases h
      apply DataWindow.Rejects.emptyInput hempty
    · rename_i hpositive
      split at h
      · rename_i hinput
        obtain ⟨addr, hdelivery, houtside, rfl⟩ := checkDelivery_eq_error_iff.mp h
        apply DataWindow.Rejects.result hpositive (DataWindow.check_eq_ok_iff.mp hinput) hdelivery
          houtside
      · rename_i hinput
        cases h
        obtain ⟨houtside, rfl⟩ := DataWindow.check_eq_error_iff.mp hinput
        apply DataWindow.Rejects.input hpositive houtside
  · intro h
    cases h with
    | emptyInput hempty => rw [if_pos hempty]
    | input hpositive houtside =>
      rw [if_neg hpositive, DataWindow.check_eq_error_iff.mpr ⟨houtside, rfl⟩]
    | result hpositive hinput hdelivery houtside =>
      rw [if_neg hpositive, DataWindow.check_eq_ok_iff.mpr hinput]
      apply checkDelivery_eq_error_iff.mpr ⟨_, hdelivery, houtside, rfl⟩

theorem checkCounters_eq_error_iff (hptr : ptr ≠ 0) :
  d.checkCounters ptr length = .error r ↔ d.window.Rejects d.delivery ptr length .readCounters r
  := by
  rw [checkCounters]
  constructor
  · intro h
    split at h
    · rename_i hshort
      cases h
      apply DataWindow.Rejects.shortBuffer hptr hshort
    · rename_i hlong
      obtain ⟨houtside, rfl⟩ := DataWindow.check_eq_error_iff.mp h
      apply DataWindow.Rejects.counters hptr (Nat.le_of_not_lt hlong) houtside
  · intro h
    cases h with
    | shortBuffer _ hshort => rw [if_pos hshort]
    | counters _ hlong houtside =>
      rw [if_neg (Nat.not_lt.mpr hlong)]
      apply DataWindow.check_eq_error_iff.mpr ⟨houtside, rfl⟩

/-! ### What a rejected call does -/

theorem run_infer_of_rejects (filter : LogFilter)
    (h : d.window.Rejects d.delivery ptr length .infer r) :
  (dispatch .infer ptr length).run filter d = ⟨.ok (.error r), d, []⟩
  := by
  have hlook : (gets fun d => d.checkInfer ptr length).run filter d = ⟨.ok (.error r), d, []⟩ := by
    rw [run_gets, checkInfer_eq_error_iff.mpr h]
  have hinfer : (infer ptr length).run filter d = ⟨.ok (.error r), d, [] ++ []⟩ :=
    run_bind_of_ok hlook rfl
  rw [dispatch, run_bind_of_ok hinfer rfl]
  rfl

theorem run_readCounters_of_rejects (filter : LogFilter)
    (h : d.window.Rejects d.delivery ptr length .readCounters r) :
  ∃ counters events,
    (dispatch .readCounters ptr length).run filter d
      = ⟨.ok (.error r), d.withCounters counters, events⟩
    ∧ ∀ e ∈ events, e.IsRecord ∨ e.IsReading
  := by
  have hptr : ptr ≠ 0 := by
    cases h with
    | shortBuffer hptr => apply hptr
    | counters hptr => apply hptr
  obtain ⟨counters, readings, hsnapshot, hreadings⟩ := Machine.run_snapshot filter d.machine
  rcases hrun : (dispatch .readCounters ptr length).run filter d with ⟨result, d', events⟩
  rw [dispatch, readCounters] at hrun
  simp only [run_bind, run_onMachine, hsnapshot, run_log, if_neg hptr, run_gets,
    checkCounters_withMachine, (checkCounters_eq_error_iff hptr).mpr h, run_pure,
    List.append_nil] at hrun
  cases hrun
  refine ⟨counters, _, rfl, ?_⟩
  intro e he
  rcases List.mem_append.mp he with he | he
  · right
    apply hreadings e he
  · left
    apply forall_isRecord_log e he

/-- A call that is rejected answers why.  Only a call for the counters has read them. -/
theorem run_dispatch_of_rejects (filter : LogFilter)
    (h : d.window.Rejects d.delivery ptr length call r) :
  ∃ counters events,
    (dispatch call ptr length).run filter d = ⟨.ok (.error r), d.withCounters counters, events⟩
    ∧ (call ≠ .readCounters → counters = d.machine.counters)
    ∧ ∀ e ∈ events, e.IsRecord ∨ (call = .readCounters ∧ e.IsReading)
  := by
  cases call with
  | infer =>
    use d.machine.counters, [], run_infer_of_rejects filter h, fun _ => rfl
    apply List.forall_mem_nil
  | readCounters =>
    obtain ⟨counters, events, hrun, hevents⟩ := run_readCounters_of_rejects filter h
    use counters, events, hrun, nofun
    intro e he
    apply (hevents e he).imp_right fun hreading => ⟨rfl, hreading⟩
  | putByte => cases h
  | getByte => cases h

theorem rejects_of_gives_infer {d' : Desk B}
    (h : Gives filter d (infer ptr length) (.error r) d') :
  d.window.Rejects d.delivery ptr length .infer r
  := by
  rcases gives_infer h with ⟨_, hcheck, ⟨⟩, -⟩ | ⟨_, _, -, ⟨⟩, -⟩
  apply checkInfer_eq_error_iff.mp hcheck

theorem rejects_of_gives_readCounters {d' : Desk B}
    (h : Gives filter d (readCounters ptr length) (.error r) d') :
  d.window.Rejects d.delivery ptr length .readCounters r
  := by
  rcases gives_readCounters h with ⟨⟨-, ⟨⟩⟩ | ⟨_, hptr, hcheck, ⟨⟩⟩, -⟩ | ⟨-, -, ⟨⟩, -⟩
  apply (checkCounters_eq_error_iff hptr).mp hcheck

/-- A call is rejected for the reasons above, and for no others. -/
theorem result_dispatch_eq_error_iff (filter : LogFilter) :
  ((dispatch call ptr length).run filter d).result = .ok (.error r)
    ↔ d.window.Rejects d.delivery ptr length call r
  := by
  constructor
  · intro h
    have hgives := gives_of_result_eq_ok h
    have hmap : ∀ {answer : Except Rejection Unit},
        Except.error r = answer.map (fun _ => (none : Option UInt32)) → answer = .error r := by
      intro answer hanswer
      cases answer with
      | ok u => cases hanswer
      | error r' =>
        cases hanswer
        rfl
    cases call with
    | infer =>
      obtain ⟨answer, s, hinfer, hpure⟩ := gives_bind.mp hgives
      obtain rfl := hmap (gives_pure.mp hpure).1
      apply rejects_of_gives_infer hinfer
    | readCounters =>
      obtain ⟨answer, s, hread, hpure⟩ := gives_bind.mp hgives
      obtain rfl := hmap (gives_pure.mp hpure).1
      apply rejects_of_gives_readCounters hread
    | putByte =>
      obtain ⟨_, s, -, hpure⟩ := gives_bind.mp hgives
      cases (gives_pure.mp hpure).1
    | getByte =>
      obtain ⟨_, s, -, hpure⟩ := gives_bind.mp hgives
      cases (gives_pure.mp hpure).1
  · intro h
    obtain ⟨counters, events, hrun, -⟩ := run_dispatch_of_rejects filter h
    rw [hrun]

/-! ### Serving a call that is rejected -/

/-- The warning of a rejected call, if warnings are kept. -/
def warning (filter : LogFilter) (call : Call) (r : Rejection) : List Event :=
  if filter.keeps .warn then
    [.log .warn ("[SYSCALL] " ++ call.text ++ " rejected: " ++ r.message)]
  else []

/-- What is seen of a call that is rejected: log records, among them the warning, and readings of
counters if the call is for them. -/
structure ShowsRejection (filter : LogFilter) (call : Call) (r : Rejection) (events : List Event) :
    Prop where
  quiet : ∀ e ∈ events, e.IsRecord ∨ (call = .readCounters ∧ e.IsReading)
  warns : ∀ e ∈ warning filter call r, e ∈ events

/-- After a call that is rejected there is a warning, and the hart leaves as it can. -/
theorem run_serve_of_rejected {frame : Registers} (hcall : Call.ofId? (frame.get .a7) = some call)
    {d' d'' : Desk B} {events later : List Event}
    (hdispatch : (dispatch call (frame.get .a0) (frame.get .a1)).run filter d
      = ⟨.ok (.error r), d', events⟩)
    {result : Except Stop (Except FatalFault Registers)}
    (hleave : (do
        onMachine Machine.skipInstruction
        onMachine (Machine.setPrevious .user)
        return (.ok frame : Except FatalFault Registers)).run filter d' = ⟨result, d'', later⟩) :
  ∃ before, (∀ e ∈ before, e.IsRecord)
    ∧ (serve frame).run filter d
      = ⟨result, d'', before ++ (events ++ (warning filter call r ++ later))⟩
  := by
  have hsettle : (settleFrame call frame (.error r)).run filter d'
      = ⟨.ok frame, d', warning filter call r ++ []⟩ := run_bind_of_ok (run_log _ _ _ _) rfl
  rw [List.append_nil] at hsettle
  rw [serve]
  simp only [Registers.request, hcall]
  rw [run_bind_of_ok (run_log _ _ _ _) (run_bind_of_ok hdispatch (run_bind_of_ok hsettle hleave))]
  refine ⟨_, ?_, rfl⟩
  apply forall_isRecord_log

/-- A call that is rejected leaves its frame as it was, and the hart goes on after it. -/
theorem run_serve_of_rejects (filter : LogFilter) {frame : Registers}
    (hcall : Call.ofId? (frame.get .a7) = some call)
    (h : d.window.Rejects d.delivery (frame.get .a0) (frame.get .a1) call r) {size : UInt32}
    (hsize : d.machine.memory.instructionLength? d.machine.mepc = some size) :
  ∃ counters events,
    (serve frame).run filter d = ⟨.ok (.ok frame), (d.withCounters counters).resumed size, events⟩
    ∧ (call ≠ .readCounters → counters = d.machine.counters)
    ∧ ShowsRejection filter call r events
  := by
  obtain ⟨counters, events, hdispatch, hcounters, hevents⟩ := run_dispatch_of_rejects filter h
  obtain ⟨before, hbefore, hserve⟩ := run_serve_of_rejected hcall hdispatch
    (run_leave (d := d.withCounters counters) filter _ hsize)
  rw [List.append_nil] at hserve
  refine ⟨counters, _, hserve, hcounters, ⟨?_, ?_⟩⟩
  · intro e he
    rcases List.mem_append.mp he with he | he
    · left
      apply hbefore e he
    · rcases List.mem_append.mp he with he | he
      · apply hevents e he
      · left
        apply forall_isRecord_log e he
  · intro e he
    apply List.mem_append_right _ (List.mem_append_right _ he)

/-- A call that is rejected where no instruction can be fetched does not return. -/
theorem run_serve_of_rejects_of_none (filter : LogFilter) {frame : Registers}
    (hcall : Call.ofId? (frame.get .a7) = some call)
    (h : d.window.Rejects d.delivery (frame.get .a0) (frame.get .a1) call r)
    (hsize : d.machine.memory.instructionLength? d.machine.mepc = none) :
  ∃ d' events, (serve frame).run filter d
    = ⟨.error (.memoryFault d.machine.mepc 2), d', events⟩
  := by
  obtain ⟨counters, events, hdispatch, -⟩ := run_dispatch_of_rejects filter h
  obtain ⟨before, -, hserve⟩ := run_serve_of_rejected hcall hdispatch
    (run_leave_of_none (d := d.withCounters counters) filter _ hsize)
  exact ⟨_, _, hserve⟩

end Desk

end SandboxMonitor
