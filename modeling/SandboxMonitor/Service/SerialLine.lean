import SandboxMonitor.Action.Basic

/-!
# The serial line

Bytes that have come in wait in a queue.  A line may be looped back, so that what is sent
comes in again.  When the queue is empty a reader either waits for ever or gets a zero.
-/

namespace SandboxMonitor

/-- A serial line. -/
structure SerialLine where
  /-- The bytes that have come in, the oldest first. -/
  queue : List UInt8
  /-- Whether bytes that are sent come in again. -/
  loopback : Bool
  /-- Whether a reader of an empty queue waits. -/
  waits : Bool
deriving DecidableEq

namespace SerialLine

/-- Adds bytes to the queue. -/
def feed (line : SerialLine) (bytes : List UInt8) : SerialLine :=
  { line with queue := line.queue ++ bytes }

/-- Sends a byte. -/
def send (byte : UInt8) : Action SerialLine Unit := do
  .emit (.sent byte)
  .modify fun line => if line.loopback then line.feed [byte] else line

/-- Takes the oldest byte from the queue. -/
def receive : Action SerialLine UInt8 := do
  match ← .gets queue with
  | byte :: rest =>
    .modify fun line => { line with queue := rest }
    .emit (.received byte)
    return byte
  | [] =>
    if ← .gets waits then .stop .idle
    else do
      .emit (.received 0)
      return 0

end SerialLine

end SandboxMonitor
