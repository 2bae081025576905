import SandboxMonitor.Proofs.Firmware.Transcript
import SandboxMonitor.Proofs.Service.Inference

/-!
# The services of the console

What a call of the sandbox does when the log keeps the usual records, replies go to the text
protocol and the engine runs the digest: which answer it gets, what is left of the desk, and
which bytes it puts on the serial line.  There is one lemma for each kind of call, and
`Desk.run_serve` says what serving adds to it.
-/

namespace SandboxMonitor

open SandboxMonitor.Action

/-! ### What events put on the serial line -/

namespace Firmware

/-- The records that the console's log keeps. -/
def logFilter : LogFilter := .upTo .info

@[simp]
theorem transmitted_nil :
  transmitted [] = []
  := rfl

@[simp]
theorem transmitted_append (events later : List Event) :
  transmitted (events ++ later) = transmitted events ++ transmitted later
  := List.flatMap_append

@[simp]
theorem transmitted_cons (e : Event) (events : List Event) :
  transmitted (e :: events) = transmittedBy e ++ transmitted events
  := rfl

/-- Counters are read in silence. -/
theorem transmitted_events (r : WideReading) (c : Counter) :
  transmitted (r.events c) = []
  := by
  rw [WideReading.events, transmitted, List.flatMap_assoc, List.flatMap_eq_nil_iff]
  rintro ⟨before, middle, after⟩ -
  rfl

/-! ### Scores -/

theorem toBitVec_digestOf (input : List UInt8) :
  (digestOf input).toBitVec
    = input.foldl (fun d b => d.rotateLeft 1 ^^^ b.toBitVec) (0 : BitVec 8)
  := by
  have hfold : ∀ d : UInt8, (input.foldl (fun d b => rotateLeft d 1 ^^^ b) d).toBitVec
      = input.foldl (fun d b => d.rotateLeft 1 ^^^ b.toBitVec) d.toBitVec := by
    induction input with
    | nil =>
      intro d
      rfl
    | cons b rest ih =>
      intro d
      apply ih
  apply hfold

/-- The scores of the digest are those of the input. -/
theorem map_toInt_digestScores (input : List UInt8) :
  (digestScores (digestOf input)).map Int8.toInt = scoresOf input
  := by
  have hzero : ∀ d : UInt8, (rotateLeft d 0).toBitVec = d.toBitVec.rotateLeft 0 := by
    intro d
    simp [rotateLeft, BitVec.rotateLeft_def, BitVec.ushiftRight_eq_zero]
  rw [scoresOf, ← toBitVec_digestOf, digestScores]
  simp only [List.map_cons, List.map_nil, ← hzero]
  rfl

end Firmware

/-! ### Replies -/

namespace Firmware

/-- The scores of an input fit a reply. -/
theorem writeScores?_digestScores (input : List UInt8) :
  ∃ text, (LineBuffer.mk responseCapacity "").writeScores? (digestScores (digestOf input))
      = some ⟨responseCapacity, text⟩
    ∧ utf8 text = scoreLine input
  := by
  obtain ⟨v₁, v₂, v₃, v₄, hscores⟩ :
      ∃ v₁ v₂ v₃ v₄, digestScores (digestOf input) = [v₁, v₂, v₃, v₄] := ⟨_, _, _, _, rfl⟩
  refine ⟨",".intercalate ((digestScores (digestOf input)).map scoreText) ++ lineEnd, ?_, ?_⟩
  · have h₁ := utf8ByteSize_scoreText_le v₁
    have h₂ := utf8ByteSize_scoreText_le v₂
    have h₃ := utf8ByteSize_scoreText_le v₃
    have h₄ := utf8ByteSize_scoreText_le v₄
    have hcomma : (",").utf8ByteSize = 1 := by decide
    have hend : lineEnd.utf8ByteSize = 2 := by decide
    have hempty : ("").utf8ByteSize = 0 := rfl
    rw [LineBuffer.writeScores?_empty, if_pos]
    · rfl
    · rw [hscores, scoresLine, ← LineBuffer.append_tailText]
      simp only [LineBuffer.tailText, String.utf8ByteSize_append, hcomma, hend, hempty,
        responseCapacity]
      omega
  · rw [scoreLine, ← map_toInt_digestScores, List.map_map]
    rfl

end Firmware

/-! ### Serving a call -/

namespace Desk

open Firmware (logFilter transmitted)

variable {B : Type} {d d' : Desk B} {frame : Registers}

/-- A call that is accepted answers in `a0`, and the hart resumes after its instruction. -/
theorem run_serve {call : Call} (hcall : Call.ofId? (frame.get .a7) = some call)
    {answer : Option UInt32} {events : List Event}
    (hdispatch : (dispatch call (frame.get .a0) (frame.get .a1)).run logFilter d
      = ⟨.ok (.ok answer), d', events⟩)
    {length : UInt32}
    (hlength : d'.machine.memory.instructionLength? d'.machine.mepc = some length) :
  (serve frame).run logFilter d
    = ⟨.ok (.ok (frame.withAnswer answer)), d'.resumed length, events⟩
  := by
  have htrace : logFilter.keeps .trace = false := rfl
  have hsettle : (settleFrame call frame (.ok answer) : Action (Desk B) _).run logFilter d'
      = ⟨.ok (frame.withAnswer answer), d', []⟩ := by
    cases answer <;> rfl
  rw [serve]
  simp only [Registers.request, hcall]
  rw [run_bind_of_ok (run_log _ _ _ _) (run_bind_of_ok hdispatch
    (run_bind_of_ok hsettle (run_leave logFilter _ hlength)))]
  simp only [htrace, List.nil_append, List.append_nil, Bool.false_eq_true, if_false]

/-- A call that does not return keeps the monitor from resuming. -/
theorem run_serve_of_stop {call : Call} (hcall : Call.ofId? (frame.get .a7) = some call)
    {why : Stop} {events : List Event}
    (hdispatch : (dispatch call (frame.get .a0) (frame.get .a1)).run logFilter d
      = ⟨.error why, d', events⟩) :
  (serve frame).run logFilter d = ⟨.error why, d', events⟩
  := by
  have htrace : logFilter.keeps .trace = false := rfl
  rw [serve]
  simp only [Registers.request, hcall, run_bind, run_log, htrace, hdispatch, List.nil_append,
    Bool.false_eq_true, if_false]

/-! ### What the calls do -/

theorem run_getByte {b : UInt8} {rest : List UInt8} {loopback waits : Bool}
    (hline : d.line = ⟨b :: rest, loopback, waits⟩) (arg0 arg1 : UInt32) :
  (dispatch .getByte arg0 arg1).run logFilter d
    = ⟨.ok (.ok (some b.toUInt32)), { d with line := ⟨rest, loopback, waits⟩ }, [.received b]⟩
  := by
  rw [run_dispatch_getByte, hline]
  rfl

/-- A call for a byte waits when none has come in. -/
theorem run_getByte_idle {loopback : Bool} (hline : d.line = ⟨[], loopback, true⟩)
    (arg0 arg1 : UInt32) :
  (dispatch .getByte arg0 arg1).run logFilter d = ⟨.error .idle, d, []⟩
  := by
  rw [run_dispatch_getByte, hline]
  rfl

theorem run_putByte {queue : List UInt8} {waits : Bool} (hline : d.line = ⟨queue, false, waits⟩)
    (arg0 arg1 : UInt32) :
  (dispatch .putByte arg0 arg1).run logFilter d
    = ⟨.ok (.ok none), d, [.sent arg0.toUInt8]⟩
  := by
  have hsame : { d with line := ⟨queue, false, waits⟩ } = d := by rw [← hline]
  rw [dispatch, run_bind, run_onLine, hline]
  change (⟨.ok (.ok none), { d with line := ⟨queue, false, waits⟩ }, [.sent arg0.toUInt8]⟩ :
    Outcome (Desk B) (Except Rejection (Option UInt32))) = _
  rw [hsame]

/-- Scores that fit a line go to the text protocol. -/
theorem run_deliver (hdelivery : d.delivery = .forward) {scores : List Int8} {text : String}
    (htext : (LineBuffer.mk responseCapacity "").writeScores? scores
      = some ⟨responseCapacity, text⟩) :
  (deliver (.ok scores)).run logFilter d = ⟨.ok (), d, [.respond text, .flush]⟩
  := by
  rw [deliver, run_bind, run_gets, hdelivery]
  dsimp only
  rw [reply, htext]
  rfl

/-- An inference hands its input to the engine and the scores to the text protocol. -/
theorem run_infer {ptr length : UInt32} (hcheck : d.checkInfer ptr length = .ok ())
    (hdelivery : d.delivery = .forward) {input : List UInt8}
    (hinput : d.machine.memory.read? ptr length.toNat = some input) {scores : List Int8}
    (hscores : d.engine.model input = .ok scores) {text : String}
    (htext : (LineBuffer.mk responseCapacity "").writeScores? scores
      = some ⟨responseCapacity, text⟩) :
  (dispatch .infer ptr length).run logFilter d
    = ⟨.ok (.ok none), { d with engine := d.engine.advance },
        [.read ptr length, .infer input, .respond text, .flush]⟩
  := by
  have hdeliver := run_deliver (d := { d with engine := d.engine.advance }) hdelivery htext
  apply run_infer_of_deliver rfl hcheck hinput
  rw [hscores, hdeliver]

/-- A reading of the counters into no buffer is logged. -/
theorem run_readCounters (arg1 : UInt32) :
  ∃ events, (dispatch .readCounters 0 arg1).run logFilter d
      = ⟨.ok (.ok none), d.withCounters d.machine.counters.afterSnapshot, events⟩
    ∧ transmitted events = Firmware.countersLine d.machine.counters.snapshot
  := by
  have hinfo : logFilter.keeps .info = true := rfl
  refine ⟨_, rfl, ?_⟩
  simp only [Firmware.transmitted_append, Firmware.transmitted_events, Firmware.transmitted_nil,
    Firmware.transmitted_cons, hinfo, if_true, List.nil_append, List.append_nil]
  rfl

end Desk

end SandboxMonitor
