import SandboxMonitor.Action.Log
import SandboxMonitor.Protection.Entry

/-!
# Events

An `Event` is something that an action does and that can be seen from outside: a register
or counter access, an access to the sandbox's memory, a byte on the serial line, a call of
the inference engine, a reply, or a log record.
-/

namespace SandboxMonitor

/-- The counter registers, which are the halves of two 64-bit counters. -/
inductive CounterRegister where
  | cycle
  | cycleHigh
  | instret
  | instretHigh
deriving DecidableEq

/-- What can be seen of an action. -/
inductive Event where
  /-- A write to a pair of protection registers, with the values asked for. -/
  | protect (index : Nat) (entry : Entry)
  /-- A counter register was read. -/
  | counter (register : CounterRegister) (value : UInt32)
  /-- Sandbox memory is about to be read. -/
  | read (addr length : UInt32)
  /-- Sandbox memory is about to be written. -/
  | write (addr length : UInt32)
  /-- The hart itself stored bytes. -/
  | store (addr : UInt32) (length : Nat)
  /-- A byte went out on the serial line. -/
  | sent (byte : UInt8)
  /-- A byte was taken from the serial line. -/
  | received (byte : UInt8)
  /-- The inference engine was given an input. -/
  | infer (input : List UInt8)
  /-- A line was handed to the text protocol. -/
  | respond (line : String)
  /-- The text protocol was told to flush. -/
  | flush
  /-- A log record that the filter keeps. -/
  | log (level : LogLevel) (message : String)
deriving DecidableEq

end SandboxMonitor
