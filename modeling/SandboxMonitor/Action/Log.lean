/-!
# Log levels

A log record has a `LogLevel`; a `LogFilter` names the most talkative level that is kept.
-/

namespace SandboxMonitor

/-- The weight of a log record, from the gravest to the most talkative. -/
inductive LogLevel where
  | error
  | warn
  | info
  | debug
  | trace
deriving DecidableEq

namespace LogLevel

/-- How talkative a level is. -/
def rank : LogLevel → Nat
  | error => 1
  | warn => 2
  | info => 3
  | debug => 4
  | trace => 5

/-- The name of a level. -/
def text : LogLevel → String
  | error => "ERROR"
  | warn => "WARN"
  | info => "INFO"
  | debug => "DEBUG"
  | trace => "TRACE"

end LogLevel

/-- Which log records are kept. -/
inductive LogFilter where
  /-- No record is kept. -/
  | off
  /-- The records up to a level are kept. -/
  | upTo (level : LogLevel)
deriving DecidableEq

/-- Whether records of a level are kept. -/
def LogFilter.keeps : LogFilter → LogLevel → Bool
  | off, _ => false
  | upTo most, level => level.rank ≤ most.rank

end SandboxMonitor
