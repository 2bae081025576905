import SandboxMonitor.Proofs.Machine.Separation
import SandboxMonitor.Proofs.Service.Logging
import SandboxMonitor.Proofs.Service.ScoreLines

/-!
# Inferences

An inference that can be made runs the engine once, on the bytes that memory has at the given
addresses, and hands over the answer once, as the delivery says (`Desk.HandsOver`): either as one
reply, or as sixteen bytes in memory.  Nothing else happens (`Desk.run_inference`).  That memory
holds the result where it held the input makes no difference, since the input is read before.

The run is computed where nothing is logged, and is the same up to log records, and up to the
readings of counters that come with them, whatever is logged (`Desk.agree_dispatch`).
-/

namespace SandboxMonitor

open SandboxMonitor.Action

variable {B : Type}

/-! ### The machine -/

namespace Machine

variable {m : Machine B}

theorem run_readUser (filter : LogFilter) {addr length : UInt32} {bytes : List UInt8}
    (h : m.memory.read? addr length.toNat = some bytes) :
  (readUser addr length).run filter m = ⟨.ok bytes, m, [.read addr length]⟩
  := by
  rw [readUser, run_bind_of_ok (run_emit _ _ _) (run_peek filter h)]
  rfl

theorem run_writeUser (filter : LogFilter) {addr : UInt32} {bytes : List UInt8}
    (h : m.memory.holds addr bytes.length = true) :
  (writeUser addr bytes).run filter m
    = ⟨.ok (), { m with memory := m.memory.write addr bytes },
        [.write addr (.ofNat bytes.length)]⟩
  := by
  rw [writeUser, run_bind_of_ok (run_emit _ _ _) (run_poke filter h)]
  rfl

end Machine

/-! ### What is handed over -/

/-- The reply to an answer of the engine: the line of its scores, or one of two fixed lines if
the scores do not fit or there are none. -/
def replyText : Except InferenceError (List Int8) → String
  | .ok scores =>
    if (scoresLine scores).utf8ByteSize ≤ responseCapacity then scoresLine scores
    else responseTooLongLine
  | .error _ => inferenceErrorLine

/-- The contents of a result buffer: the first scores, with zeros after them up to its length, or
sentinels if there are no scores. -/
def resultContents (sentinel : UInt8) : Except InferenceError (List Int8) → List UInt8
  | .ok scores => ((scores.take resultLength).map Int8.toUInt8).rightpad resultLength 0
  | .error _ => List.replicate resultLength sentinel

@[simp]
theorem length_resultContents (sentinel : UInt8) (answer : Except InferenceError (List Int8)) :
  (resultContents sentinel answer).length = resultLength
  := by
  cases answer with
  | error e => apply List.length_replicate
  | ok scores =>
    rw [resultContents, List.length_rightpad, List.length_map, List.length_take]
    omega

/-- A result buffer has, at each index, the score with that index or a zero. -/
theorem resultBytes_eq (sentinel : UInt8) (scores : List Int8) :
  resultBytes scores = resultContents sentinel (.ok scores)
  := by
  apply List.ext_getElem?
  intro i
  rw [resultBytes, resultContents, List.rightpad, List.getElem?_map, List.getElem?_append,
    List.getElem?_map, List.length_map, List.length_take, List.getElem?_replicate]
  by_cases hi : i < resultLength
  · rw [List.getElem?_range hi, Option.map_some, List.getD_eq_getElem?_getD]
    by_cases hscore : i < scores.length
    · rw [if_pos (by omega), List.getElem?_take_of_lt hi, List.getElem?_eq_getElem hscore]
      rfl
    · rw [if_neg (by omega), if_pos (by omega), List.getElem?_eq_none (by omega)]
      rfl
  · rw [List.getElem?_eq_none (by simpa using hi), if_neg (by omega), if_neg (by omega)]
    rfl

namespace Desk

variable {d : Desk B} {ptr length : UInt32}

/-- What an answer of the engine is handed over as: which memory comes after which, and what can
be seen of it. -/
inductive HandsOver (sentinel : UInt8) (answer : Except InferenceError (List Int8))
    (before : Memory) : Delivery → Memory → List Event → Prop where
  /-- There is one reply, and memory stays as it is. -/
  | reply : HandsOver sentinel answer before .forward before [.respond (replyText answer), .flush]
  /-- The result buffer gets its contents, and the rest of memory stays as it is. -/
  | store {addr : UInt32} {after : Memory}
      (hcontents : after.HasBytes addr (resultContents sentinel answer))
      (hothers : ∀ a : UInt32, a.toNat < addr.toNat ∨ addr.toNat + resultLength ≤ a.toNat →
        after.byte? a = before.byte? a) :
      HandsOver sentinel answer before (.resultBuffer addr) after
        [.write addr (.ofNat resultLength)]

/-- All that is seen of handing over an answer is compared. -/
theorem HandsOver.filter_eq {sentinel : UInt8} {answer : Except InferenceError (List Int8)}
    {before after : Memory} {delivery : Delivery} {handed : List Event}
    (h : HandsOver sentinel answer before delivery after handed) :
  handed.filter (Event.compared false) = handed
  := by
  cases h with
  | reply => rfl
  | store => rfl

/-- The window admits some bytes and memory holds them. -/
structure Reaches (d : Desk B) (addr length : UInt32) : Prop where
  admitted : d.window.admits addr length = true
  held : d.machine.memory.holds addr length.toNat = true

/-- An inference can be made: there is an input, and it can be reached, and so can the result
buffer if there is one. -/
structure CanInfer (d : Desk B) (ptr length : UInt32) : Prop where
  nonempty : length ≠ 0
  input : d.Reaches ptr length
  result : ∀ addr, d.delivery = .resultBuffer addr → d.Reaches addr (.ofNat resultLength)

/-! ### Without measuring -/

theorem run_profiled {filter : LogFilter} (hdebug : filter.keeps .debug = false) {α : Type}
    (a : Action (Desk B) α) (d : Desk B) :
  (profiled a).run filter d = a.run filter d
  := by
  rw [profiled, run_bind, run_keeps, hdebug]
  rfl

/-- The engine answers what comes out of sandbox memory. -/
theorem run_consult_readUser (filter : LogFilter) {input : List UInt8}
    (hinput : d.machine.memory.read? ptr length.toNat = some input) :
  (do consult (← onMachine (Machine.readUser ptr length))).run filter d
    = ⟨.ok (d.engine.model input), { d with engine := d.engine.advance },
        [.read ptr length, .infer input]⟩
  := by
  rw [run_bind, run_onMachine, Machine.run_readUser filter hinput]
  rfl

/-- An inference that is not measured asks the engine for its input and delivers the answer. -/
theorem run_infer_of_deliver {filter : LogFilter} (hdebug : filter.keeps .debug = false)
    (hchecked : d.checkInfer ptr length = .ok ()) {input : List UInt8}
    (hinput : d.machine.memory.read? ptr length.toNat = some input) {d' : Desk B}
    {handed : List Event}
    (hdeliver : (deliver (d.engine.model input)).run filter { d with engine := d.engine.advance }
      = ⟨.ok (), d', handed⟩) :
  (dispatch .infer ptr length).run filter d
    = ⟨.ok (.ok none), d', .read ptr length :: .infer input :: handed⟩
  := by
  have hlook : (gets fun d => d.checkInfer ptr length).run filter d = ⟨.ok (.ok ()), d, []⟩ := by
    rw [run_gets, hchecked]
  have hasked := (run_profiled hdebug _ d).trans (run_consult_readUser filter hinput)
  have hinfer : (infer ptr length).run filter d
      = ⟨.ok (.ok ()), d', [] ++ ((if filter.keeps .debug then _ else [])
          ++ ([.read ptr length, .infer input] ++ (handed ++ [])))⟩ :=
    run_bind_of_ok hlook
      (run_bind_of_ok (run_log _ _ _ _) (run_bind_of_ok hasked (run_bind_of_ok hdeliver rfl)))
  rw [dispatch, run_bind_of_ok hinfer rfl, hdebug]
  simp only [Bool.false_eq_true, if_false, List.nil_append, List.append_nil, List.cons_append]
  rfl

/-! ### Without a log -/

/-- What follows a log record is run as if there were none. -/
theorem run_log_off {σ α : Type} (level : LogLevel) (message : String) (next : Unit → Action σ α)
    (s : σ) :
  (log level message >>= next).run .off s = (next ()).run .off s
  := rfl

theorem run_reply_off (d : Desk B) (answer : Except InferenceError (List Int8)) :
  (reply answer).run .off d = ⟨.ok (), d, [.respond (replyText answer), .flush]⟩
  := by
  cases answer with
  | error e => rfl
  | ok scores =>
    rw [reply, replyText, LineBuffer.writeScores?_empty]
    by_cases hfits : (scoresLine scores).utf8ByteSize ≤ responseCapacity
    · rw [if_pos hfits, if_pos hfits]
      rfl
    · rw [if_neg hfits, if_neg hfits]
      rfl

theorem run_deliver_off (answer : Except InferenceError (List Int8))
    (hresult : ∀ addr, d.delivery = .resultBuffer addr →
      addr.toNat + resultLength < 2 ^ 32 ∧ d.machine.memory.holds addr resultLength = true)
    (hapart : d.machine.memory.Apart) :
  ∃ after handed, HandsOver d.sentinel answer d.machine.memory d.delivery after handed
    ∧ (deliver answer).run .off d
      = ⟨.ok (), d.withMachine { d.machine with memory := after }, handed⟩
  := by
  cases hdelivery : d.delivery with
  | forward =>
    refine ⟨_, _, .reply, ?_⟩
    rw [deliver, run_gets_bind _ _ _ hdelivery]
    apply run_reply_off
  | resultBuffer addr =>
    obtain ⟨hfits, hheld⟩ := hresult addr hdelivery
    have hholds : d.machine.memory.holds addr (resultContents d.sentinel answer).length = true := by
      rw [length_resultContents]
      apply hheld
    have hwrite : (deliver answer).run .off d
        = (onMachine (Machine.writeUser addr (resultContents d.sentinel answer))).run .off d := by
      rw [deliver, run_gets_bind _ _ _ hdelivery]
      cases answer with
      | error e =>
        dsimp only
        rw [warnFailure, run_log_off, run_gets_bind _ _ _ rfl]
        rfl
      | ok scores => rw [← resultBytes_eq]
    refine ⟨_, _, .store (hapart.hasBytes_write hholds ?_) ?_, ?_⟩
    · rw [length_resultContents]
      apply hfits
    · intro a ha
      apply d.machine.memory.byte?_write_of_apart
      rw [length_resultContents]
      apply ha
    · rw [hwrite, run_onMachine, Machine.run_writeUser .off hholds, length_resultContents]

theorem CanInfer.checkInfer (h : d.CanInfer ptr length) :
  d.checkInfer ptr length = .ok ()
  := by
  rw [checkInfer_eq_ok_iff]
  use ⟨h.input.admitted, h.nonempty⟩
  cases hdelivery : d.delivery with
  | forward => trivial
  | resultBuffer addr => exact ⟨(h.result addr hdelivery).admitted, by decide⟩

/-- What can be reached ends below the end of memory. -/
theorem Reaches.fits {addr : UInt32} (h : d.Reaches addr length) :
  addr.toNat + length.toNat < 2 ^ 32
  := by
  have hadmitted := h.admitted
  rw [DataWindow.admits, Bool.and_eq_true, Bool.and_eq_true, decide_eq_true_eq] at hadmitted
  apply hadmitted.1.1

theorem run_inference_off (hapart : d.machine.memory.Apart) (h : d.CanInfer ptr length)
    {input : List UInt8} (hinput : d.machine.memory.read? ptr length.toNat = some input) :
  ∃ after handed,
    HandsOver d.sentinel (d.engine.model input) d.machine.memory d.delivery after handed
    ∧ (dispatch .infer ptr length).run .off d
      = ⟨.ok (.ok none),
          { d with engine := d.engine.advance, machine := { d.machine with memory := after } },
          .read ptr length :: .infer input :: handed⟩
  := by
  obtain ⟨after, handed, hhanded, hdeliver⟩ :=
    run_deliver_off (d := { d with engine := d.engine.advance }) (d.engine.model input)
      (fun addr hdelivery => ⟨(h.result addr hdelivery).fits, (h.result addr hdelivery).held⟩)
      hapart
  use after, handed, hhanded
  apply run_infer_of_deliver rfl h.checkInfer hinput hdeliver

/-- An inference that can be made asks the engine once, for the bytes that memory has at the given
addresses, and hands over its answer once.  Whatever is logged, all else stays as it was but what
the counters answer next. -/
theorem run_inference (filter : LogFilter) (hapart : d.machine.memory.Apart)
    (h : d.CanInfer ptr length) :
  ∃ input after handed counters events,
    input.length = length.toNat ∧ d.machine.memory.HasBytes ptr input
    ∧ HandsOver d.sentinel (d.engine.model input) d.machine.memory d.delivery after handed
    ∧ (dispatch .infer ptr length).run filter d
      = ⟨.ok (.ok none),
          { d with
            engine := d.engine.advance
            machine := { d.machine with memory := after, counters } },
          events⟩
    ∧ events.filter (Event.compared false) = .read ptr length :: .infer input :: handed
  := by
  obtain ⟨input, hinput⟩ : ∃ input, d.machine.memory.read? ptr length.toNat = some input := by
    rw [← Option.isSome_iff_exists, Memory.isSome_read?, h.input.held]
  obtain ⟨after, handed, hhanded, hoff⟩ := run_inference_off hapart h hinput
  have hcomparable : Comparable .off filter false .infer := ⟨nofun, fun _ => rfl⟩
  have hagree := agree_dispatch hcomparable ptr length d d ⟨d.machine.counters, rfl, nofun⟩
  rcases hrun : (dispatch .infer ptr length).run filter d with ⟨result, d', events⟩
  rw [hoff, hrun] at hagree
  obtain ⟨hresult, ⟨counters, rfl, -⟩, hevents⟩ := hagree
  obtain rfl : result = .ok (.ok none) := hresult
  refine ⟨input, after, handed, counters, events, Memory.length_of_read? hinput,
    hapart.hasBytes_of_read? hinput h.input.fits, hhanded, rfl, ?_⟩
  rw [hevents]
  apply congrArg (.read ptr length :: .infer input :: ·) hhanded.filter_eq

/-- A desk whose results are stored over the end of an input of four bytes. -/
def overlapping : Desk RegisterBank where
  machine := {
    bank := .clear 16
    counters := .silent
    memory := ⟨[⟨0x80100000, #[1, 2, 3, 0xFC] ++ Array.replicate 16 7⟩]⟩
    mcause := 8
    mepc := 0x80000000
    mtval := 0
    mpp := .user
    mie := false }
  line := ⟨[], false, true⟩
  engine := ⟨⟨[.echo]⟩⟩
  window := ⟨0x80100000, 0x80100014⟩
  delivery := .resultBuffer 0x80100002
  sentinel := defaultSentinel

/-- The engine gets the input as it was, and its scores and zeros are then stored over the end of
it. -/
theorem run_inference_overlapping :
  ∃ d' events, (dispatch .infer 0x80100000 4).run (.upTo .debug) overlapping
      = ⟨.ok (.ok none), d', events⟩
    ∧ d'.machine.memory.HasBytes 0x80100002 [1, 2, 3, 0xFC, 0, 0, 0, 0, 0, 0, 0, 0, 0, 0, 0, 0]
    ∧ d'.machine.memory.byte? 0x80100001 = some 2
    ∧ events.filter (Event.compared false)
      = [.read 0x80100000 4, .infer [1, 2, 3, 0xFC], .write 0x80100002 16]
  := by
  have hapart : overlapping.machine.memory.Apart := List.pairwise_singleton _ _
  have hcan : overlapping.CanInfer 0x80100000 4 := by
    constructor
    · decide
    · exact ⟨by decide, by decide⟩
    · rintro _ ⟨⟩
      exact ⟨by decide, by decide⟩
  obtain ⟨input, after, handed, counters, events, hlength, hinput, hhanded, hrun, hevents⟩ :=
    run_inference (.upTo .debug) hapart hcan
  have hread : overlapping.machine.memory.read? 0x80100000 4 = some [1, 2, 3, 0xFC] := by decide
  obtain rfl : input = [1, 2, 3, 0xFC] :=
    hinput.eq (hapart.hasBytes_of_read? hread (by decide)) hlength
  cases hhanded with
  | store hcontents hothers =>
    refine ⟨_, events, hrun, hcontents, ?_, hevents⟩
    apply (hothers 0x80100001 (.inl (by decide))).trans
    decide

end Desk

end SandboxMonitor
