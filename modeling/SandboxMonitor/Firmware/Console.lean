import SandboxMonitor.Action.Event
import SandboxMonitor.Service.Engine

/-!
# The console

The firmware has one serial line, which carries everything it says: the bytes that the
sandbox sends, the replies of the text protocol and the log.  `transmitted` is what a list
of events puts on the line.  `digest` is the model that the firmware runs.
-/

namespace SandboxMonitor.Firmware

/-- Text with a carriage return before each line feed. -/
def withCarriageReturns (text : List UInt8) : List UInt8 :=
  text.flatMap fun b => if b = 10 then [13, 10] else [b]

/-- The octets of a text. -/
def utf8 (text : String) : List UInt8 := text.toUTF8.toList

/-- The name of a log level, filled to five characters. -/
def levelColumn (level : LogLevel) : String :=
  level.text ++ String.ofList (List.replicate (5 - level.text.length) ' ')

/-- The octets of a log record on the console. -/
def logLine (level : LogLevel) (message : String) : List UInt8 :=
  withCarriageReturns (utf8 (levelColumn level ++ " " ++ message ++ "\n"))

/-- What an event puts on the serial line. -/
def transmittedBy : Event → List UInt8
  | .sent byte => [byte]
  | .respond line => utf8 line
  | .log level message => logLine level message
  | _ => []

/-- What events put on the serial line. -/
def transmitted (events : List Event) : List UInt8 := events.flatMap transmittedBy

/-- An octet rotated to the left. -/
def rotateLeft (b : UInt8) (count : UInt8) : UInt8 := (b <<< count) ||| (b >>> (8 - count))

/-- An octet that depends on every octet of an input. -/
def digestOf (input : List UInt8) : UInt8 :=
  input.foldl (fun d b => rotateLeft d 1 ^^^ b) 0

/-- The four scores of a digest. -/
def digestScores (d : UInt8) : List Int8 :=
  [0, 2, 4, 6].map fun count => (rotateLeft d count).toInt8

/-- The model that scores the digest of an input. -/
def digest : Model := fun input =>
  if input.isEmpty then .error .invalidInput else .ok (digestScores (digestOf input))

end SandboxMonitor.Firmware
