import SandboxMonitor.Action.Basic
import SandboxMonitor.Protection.Bank
import SandboxMonitor.Protection.Layout

/-!
# Installation

`install` writes a plan to a bank of protection registers.  It first refuses a plan that is
too long or whose entries are locked, then writes every entry, reads every entry back, and
last clears the entries above the plan that an earlier stage left enabled.
`installLayout` installs the plan of a sandbox layout and answers an `Installed`, which
stands for the regions being in force.
-/

namespace SandboxMonitor

variable {B : Type} [ProtectionBank B]

namespace ProtectionBank

/-- The number of entries that an installation may use. -/
def available (b : B) : Nat := min (entryCount b) Plan.capacity

/-- The index of the first of the entries `first`, `first + 1`, … that is locked. -/
def firstLocked? (b : B) (first : Nat) : List Entry → Option Nat
  | [] => none
  | _ :: rest => if (entry b first).isLocked then some first else firstLocked? b (first + 1) rest

/-- The first of the entries from `first` on that does not read as it was written. -/
def firstMismatch? (b : B) (first : Nat) : List Entry → Option (Nat × Entry)
  | [] => none
  | wrote :: rest =>
    if entry b first = wrote then firstMismatch? b (first + 1) rest else some (first, wrote)

/-- Why a plan cannot be written at all. -/
def refusal? (b : B) (plan : Plan) : Option ProtectionError :=
  if available b < plan.size then some (.tooManyEntries plan.size (available b))
  else (firstLocked? b 0 plan.entries).map .entryLocked

/-- How the registers differ from a plan that was written. -/
def readback? (b : B) (plan : Plan) : Option ProtectionError :=
  (firstMismatch? b 0 plan.entries).map fun (index, wrote) =>
    .readback index wrote (entry b index)

end ProtectionBank

open ProtectionBank (available refusal? readback?)

/-- Writes one entry. -/
def writeEntry (index : Nat) (e : Entry) : Action B Unit := do
  .emit (.protect index e)
  .modify fun b => ProtectionBank.write b index e

/-- Writes entries from an index on. -/
def writeEntries (first : Nat) : List Entry → Action B Unit
  | [] => pure ()
  | e :: rest => do
    writeEntry first e
    writeEntries (first + 1) rest

/-- Clears an entry that an earlier stage left enabled; a locked one can only be reported. -/
def clearStale (index : Nat) : Action B Unit := do
  let stale := ProtectionBank.entry (← .state) index
  if stale.mode = .off then pure ()
  else if stale.isLocked then
    .log .warn ("[PMP] entry " ++ toString index ++ " locked by an earlier stage: " ++ stale.text)
  else do
    .log .debug ("[PMP] clearing stale entry " ++ toString index)
    writeEntry index .zero

/-- Clears `count` entries from an index on. -/
def sweep (first : Nat) : Nat → Action B Unit
  | 0 => pure ()
  | count + 1 => do
    clearStale first
    sweep (first + 1) count

/-- Writes a plan, reads it back and clears what lies above it. -/
def install (plan : Plan) : Action B (Except ProtectionError Unit) := do
  match refusal? (← .state) plan with
  | some e => return .error e
  | none =>
    writeEntries 0 plan.entries
    let written ← .state
    match readback? written plan with
    | some e => return .error e
    | none =>
      sweep plan.size (available written - plan.size)
      return .ok ()

/-- The regions of a sandbox that are in force, and the number of entries that they take. -/
structure Installed where
  windows : Windows
  entries : Nat
deriving DecidableEq

/-- Warns of a sandbox that may execute what it writes. -/
def warnIfDegraded (ws : Windows) : Action B Unit :=
  match ws.isolation with
  | .split => pure ()
  | .degraded =>
    .log .warn ("[PMP] combined RWX window " ++ Text.word ws.code.base ++ "+"
      ++ Text.hex 0 ws.code.length.toNat
      ++ ": weaker isolation, sandbox may execute what it writes")

/-- Installs the regions of a layout. -/
def installLayout (layout : Layout) : Action B (Except ProtectionError Installed) := do
  match layout.windows with
  | .error e => return .error e
  | .ok windows =>
    match windows.plan with
    | .error e => return .error e
    | .ok plan =>
      match ← install plan with
      | .error e => return .error e
      | .ok () =>
        warnIfDegraded windows
        .log .info ("[PMP] installed " ++ toString plan.size ++ " entries ("
          ++ windows.isolation.text ++ " isolation)")
        return .ok ⟨windows, plan.size⟩

end SandboxMonitor
