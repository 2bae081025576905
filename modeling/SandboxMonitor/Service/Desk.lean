import SandboxMonitor.Machine.Basic
import SandboxMonitor.Service.Call
import SandboxMonitor.Service.DataWindow
import SandboxMonitor.Service.Engine
import SandboxMonitor.Service.ScoreLine
import SandboxMonitor.Service.SerialLine
import SandboxMonitor.Trap.Fault

/-!
# The service desk

A `Desk` is everything that a call of the sandbox can touch: the machine, the serial line,
the inference engine, and the rules for sandbox memory.  `Desk.dispatch` answers a call; it
checks the arguments before it touches sandbox memory, and a call that fails a check is
rejected.  `Desk.serve` answers the call that a trap frame asks for and moves the hart past
the instruction that called.
-/

namespace SandboxMonitor

/-- Where the scores of an inference go. -/
inductive Delivery where
  /-- To the text protocol, as one line. -/
  | forward
  /-- To sandbox memory, as `resultLength` bytes at an address. -/
  | resultBuffer (addr : UInt32)
deriving DecidableEq

/-- The number of bytes of a result buffer. -/
def resultLength : Nat := 16

/-- The number of bytes of a counter buffer. -/
def counterLength : Nat := 16

/-- The most bytes of a reply. -/
def responseCapacity : Nat := 256

/-- The byte that fills the result buffer after a failure, unless another is chosen. -/
def defaultSentinel : UInt8 := 0x80

/-- The reply to a failed inference. -/
def inferenceErrorLine : String := "Inference error" ++ lineEnd

/-- The reply when the scores do not fit a line. -/
def responseTooLongLine : String := "Inference error: response too long" ++ lineEnd

/-- The machine and the devices behind the services. -/
structure Desk (B : Type) where
  machine : Machine B
  line : SerialLine
  engine : Engine
  /-- The sandbox memory that services may touch. -/
  window : DataWindow
  delivery : Delivery
  /-- The byte that fills the result buffer after a failure. -/
  sentinel : UInt8

/-- The result buffer for some scores: the first of them, then zeros. -/
def resultBytes (scores : List Int8) : List UInt8 :=
  (List.range resultLength).map fun i => (scores.getD i 0).toUInt8

namespace Desk

variable {B : Type}

/-- Runs an action on the machine. -/
def onMachine {α : Type} (a : Action (Machine B) α) : Action (Desk B) α :=
  a.on fun ⟨machine, line, engine, window, delivery, sentinel⟩ =>
    (machine, fun m => ⟨m, line, engine, window, delivery, sentinel⟩)

/-- Runs an action on the serial line. -/
def onLine {α : Type} (a : Action SerialLine α) : Action (Desk B) α :=
  a.on fun ⟨machine, line, engine, window, delivery, sentinel⟩ =>
    (line, fun l => ⟨machine, l, engine, window, delivery, sentinel⟩)

/-- Rejects a result buffer outside the window. -/
def checkDelivery (d : Desk B) : Except Rejection Unit :=
  match d.delivery with
  | .forward => .ok ()
  | .resultBuffer addr =>
    (d.window.check addr (.ofNat resultLength)).mapError fun _ => .resultBufferOutOfWindow addr

/-- Rejects an inference on no bytes, on bytes outside the window, or without room for its
result. -/
def checkInfer (d : Desk B) (ptr length : UInt32) : Except Rejection Unit :=
  if length = 0 then .error .emptyBuffer
  else
    match d.window.check ptr length with
    | .ok () => d.checkDelivery
    | .error r => .error r

/-- Rejects a counter buffer that is too short or lies outside the window. -/
def checkCounters (d : Desk B) (ptr length : UInt32) : Except Rejection Unit :=
  if length.toNat < counterLength then .error (.shortCounterBuffer length)
  else d.window.check ptr (.ofNat counterLength)

/-- Runs the engine on an input. -/
def consult (input : List UInt8) : Action (Desk B) (Except InferenceError (List Int8)) := do
  let model ← .gets fun d => d.engine.model
  .emit (.infer input)
  .modify fun d => { d with engine := d.engine.advance }
  return model input

/-- Runs an action and logs, when anyone listens, what the counters counted meanwhile. -/
def profiled {α : Type} (a : Action (Desk B) α) : Action (Desk B) α := do
  if ← .keeps .debug then
    let earlier ← onMachine Machine.snapshot
    let v ← a
    let spent := (← onMachine Machine.snapshot).since earlier
    .log .debug ("[SYSCALL] infer took cycles=" ++ toString spent.cycles.toNat
      ++ " instret=" ++ toString spent.instret.toNat)
    return v
  else
    a

/-- Warns of a failed inference. -/
def warnFailure (e : InferenceError) : Action (Desk B) Unit :=
  .log .warn ("[SYSCALL] inference failed: " ++ e.message)

/-- The reply to an inference. -/
def reply (answer : Except InferenceError (List Int8)) : Action (Desk B) Unit := do
  match answer with
  | .ok scores =>
    match (LineBuffer.mk responseCapacity "").writeScores? scores with
    | some buffer => .emit (.respond buffer.text)
    | none =>
      .log .warn ("[SYSCALL] " ++ toString scores.length
        ++ " scores do not fit one response line")
      .emit (.respond responseTooLongLine)
  | .error e =>
    warnFailure e
    .emit (.respond inferenceErrorLine)
  .emit .flush

/-- Hands over the answer of the engine. -/
def deliver (answer : Except InferenceError (List Int8)) : Action (Desk B) Unit := do
  match ← .gets delivery with
  | .forward => reply answer
  | .resultBuffer addr =>
    match answer with
    | .ok scores => onMachine (Machine.writeUser addr (resultBytes scores))
    | .error e =>
      warnFailure e
      let sentinel ← .gets sentinel
      onMachine (Machine.writeUser addr (List.replicate resultLength sentinel))

/-- Runs the engine on sandbox memory and hands over its answer. -/
def infer (ptr length : UInt32) : Action (Desk B) (Except Rejection Unit) := do
  match ← .gets fun d => d.checkInfer ptr length with
  | .error r => return .error r
  | .ok () =>
    .log .debug ("[SYSCALL] infer input=" ++ Text.word ptr ++ " len=" ++ toString length.toNat)
    let answer ← profiled do
      consult (← onMachine (Machine.readUser ptr length))
    deliver answer
    return .ok ()

/-- Logs the counters and stores them in sandbox memory if an address is given. -/
def readCounters (ptr length : UInt32) : Action (Desk B) (Except Rejection Unit) := do
  let s ← onMachine Machine.snapshot
  .log .info ("[SYSCALL] cycles=" ++ toString s.cycles.toNat
    ++ " instret=" ++ toString s.instret.toNat)
  if ptr = 0 then return .ok ()
  match ← .gets fun d => d.checkCounters ptr length with
  | .error r => return .error r
  | .ok () =>
    onMachine (Machine.writeUser ptr s.bytes)
    return .ok ()

/-- Answers a call, with a value for `a0` if the call has one. -/
def dispatch (call : Call) (arg0 arg1 : UInt32) :
    Action (Desk B) (Except Rejection (Option UInt32)) := do
  match call with
  | .infer => return (← infer arg0 arg1).map fun _ => none
  | .putByte =>
    onLine (SerialLine.send arg0.toUInt8)
    return .ok none
  | .getByte =>
    let byte ← onLine SerialLine.receive
    return .ok (some byte.toUInt32)
  | .readCounters => return (← readCounters arg0 arg1).map fun _ => none

/-- The frame after a call: a value goes to `a0`, and a rejection is only logged. -/
def settleFrame (call : Call) (frame : Registers) :
    Except Rejection (Option UInt32) → Action (Desk B) Registers
  | .ok (some v) => return frame.set .a0 v
  | .ok none => return frame
  | .error r => do
    .log .warn ("[SYSCALL] " ++ call.text ++ " rejected: " ++ r.message)
    return frame

/-- Answers the call that a frame asks for and makes the hart resume after it in user mode. -/
def serve (frame : Registers) : Action (Desk B) (Except FatalFault Registers) := do
  let request := frame.request
  match Call.ofId? request.id with
  | none => return .error (.unknownCall request.id (← .gets fun d => d.machine.mepc))
  | some call =>
    .log .trace ("[SYSCALL] " ++ call.text ++ " a0=" ++ Text.word request.arg0
      ++ " a1=" ++ Text.word request.arg1)
    let answer ← dispatch call request.arg0 request.arg1
    let frame ← settleFrame call frame answer
    onMachine Machine.skipInstruction
    onMachine (Machine.setPrevious .user)
    return .ok frame

end Desk

end SandboxMonitor
