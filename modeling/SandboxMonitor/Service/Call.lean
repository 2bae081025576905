import SandboxMonitor.Trap.Registers

/-!
# Calls

The sandbox asks for a service by number: the number is in `a7`, two arguments are in `a0`
and `a1`, and a result, if there is one, comes back in `a0`.
-/

namespace SandboxMonitor

/-- The services that the sandbox can ask for. -/
inductive Call where
  /-- Run the inference engine on the `a1` bytes at `a0`. -/
  | infer
  /-- Send the low byte of `a0` on the serial line. -/
  | putByte
  /-- Take a byte from the serial line. -/
  | getByte
  /-- Log the counters, and store them in the `a1` bytes at `a0` unless that is 0. -/
  | readCounters
deriving DecidableEq

namespace Call

/-- The number of a call. -/
def id : Call → UInt32
  | infer => 0
  | putByte => 1
  | getByte => 2
  | readCounters => 99

/-- The call with a number. -/
def ofId? (n : UInt32) : Option Call :=
  if n = 0 then some infer
  else if n = 1 then some putByte
  else if n = 2 then some getByte
  else if n = 99 then some readCounters
  else none

/-- The name that log lines give a call. -/
def text : Call → String
  | infer => "Infer"
  | putByte => "UartPutchar"
  | getByte => "UartGetchar"
  | readCounters => "ReadCounters"

theorem ofId?_eq_some_iff {n : UInt32} {c : Call} :
  ofId? n = some c ↔ n = c.id
  := by
  unfold ofId?
  constructor
  · intro h
    repeat' split at h
    all_goals cases h <;> assumption
  · rintro rfl
    cases c <;> rfl

end Call

/-- The number and the arguments of a call. -/
structure CallRequest where
  id : UInt32
  arg0 : UInt32
  arg1 : UInt32
deriving DecidableEq

/-- What a frame asks for. -/
def Registers.request (frame : Registers) : CallRequest :=
  ⟨frame.get .a7, frame.get .a0, frame.get .a1⟩

end SandboxMonitor
