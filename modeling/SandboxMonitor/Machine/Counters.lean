import SandboxMonitor.Action.Event
import SandboxMonitor.Machine.Script

/-!
# Counters

The hart counts cycles and retired instructions in two 64-bit counters, each readable only
by halves.  `Counters` holds what the four registers answer in turn.  `readWide` reads a
whole counter: it reads the high half before and after the low half and tries again until
both high halves agree, so that a carry between two readings cannot tear the value.
-/

namespace SandboxMonitor

/-- What the four counter registers answer. -/
structure Counters where
  cycle : Script UInt32
  cycleHigh : Script UInt32
  instret : Script UInt32
  instretHigh : Script UInt32

/-- One of the two 64-bit counters. -/
inductive Counter where
  | cycle
  | instret
deriving DecidableEq

namespace Counter

/-- The register that holds the low half. -/
def low : Counter → CounterRegister
  | cycle => .cycle
  | instret => .instret

/-- The register that holds the high half. -/
def high : Counter → CounterRegister
  | cycle => .cycleHigh
  | instret => .instretHigh

end Counter

/-- The two halves of a counter put together. -/
def joinHalves (high low : UInt32) : UInt64 := (high.toUInt64 <<< 32) ||| low.toUInt64

/-- A value that was read, with the scripts as the readings left them. -/
structure WideReading where
  value : UInt64
  /-- The low halves that were read, each between its two high halves. -/
  passes : List (UInt32 × UInt32 × UInt32)
  high : Script UInt32
  low : Script UInt32

/-- Reads high, low and high again, until both high halves agree. -/
def readStable (high low : Script UInt32) : WideReading :=
  let before := high.head 0
  let middle := low.head 0
  let after := high.advance.head 0
  if _ : after = before then
    ⟨joinHalves before middle, [(before, middle, after)], high.advance.advance, low.advance⟩
  else
    let rest := readStable high.advance.advance low.advance
    { rest with passes := (before, middle, after) :: rest.passes }
termination_by high.size
decreasing_by
  exact Nat.lt_of_le_of_lt (Script.size_advance_le _) (Script.size_advance_lt ‹_›)

namespace WideReading

/-- The readings as events of a counter's registers, in the order in which they were made. -/
def events (r : WideReading) (c : Counter) : List Event :=
  r.passes.flatMap fun (before, middle, after) =>
    [.counter c.high before, .counter c.low middle, .counter c.high after]

end WideReading

namespace Counters

/-- Registers that answer zero for ever. -/
def silent : Counters := ⟨⟨[]⟩, ⟨[]⟩, ⟨[]⟩, ⟨[]⟩⟩

/-- What a register answers. -/
def script (cs : Counters) : CounterRegister → Script UInt32
  | .cycle => cs.cycle
  | .cycleHigh => cs.cycleHigh
  | .instret => cs.instret
  | .instretHigh => cs.instretHigh

/-- The counters with the answers of one register replaced. -/
def withScript (cs : Counters) (register : CounterRegister) (s : Script UInt32) : Counters :=
  match register with
  | .cycle => { cs with cycle := s }
  | .cycleHigh => { cs with cycleHigh := s }
  | .instret => { cs with instret := s }
  | .instretHigh => { cs with instretHigh := s }

/-- The reading of a whole counter. -/
def readWide (cs : Counters) (c : Counter) : WideReading :=
  readStable (cs.script c.high) (cs.script c.low)

/-- The counters after the reading of a whole counter. -/
def afterReading (cs : Counters) (c : Counter) (r : WideReading) : Counters :=
  (cs.withScript c.high r.high).withScript c.low r.low

end Counters

/-- The values of both counters. -/
structure Snapshot where
  cycles : UInt64
  instret : UInt64
deriving DecidableEq

namespace Snapshot

/-- What was counted since an earlier snapshot; the counters wrap. -/
def since (later earlier : Snapshot) : Snapshot :=
  ⟨later.cycles - earlier.cycles, later.instret - earlier.instret⟩

/-- The eight octets of a 64-bit word, the lowest first. -/
def octets (w : UInt64) : List UInt8 :=
  (List.range 8).map fun i => (w >>> .ofNat (8 * i)).toUInt8

/-- The cycles and then the instructions, each as eight octets. -/
def bytes (s : Snapshot) : List UInt8 := octets s.cycles ++ octets s.instret

end Snapshot

end SandboxMonitor
