import SandboxMonitor.Protection.Plan

/-!
# Sandbox layouts

A `Layout` says which windows of memory the sandbox is to have: code and data apart, or one
span for both, and possibly a peripheral.  `Layout.windows` rounds each window to a region
and refuses a layout whose regions overlap; `Windows.plan` lists the entries that grant the
regions.  Every entry of a sandbox is locked.
-/

namespace SandboxMonitor

/-- A request for the `length` bytes at `base`. -/
structure Window where
  base : UInt32
  length : UInt32
deriving DecidableEq

/-- How well the sandbox is fenced in. -/
inductive Isolation where
  /-- No byte is both writable and executable. -/
  | split
  /-- The sandbox may execute what it writes. -/
  | degraded
deriving DecidableEq

/-- The name of an isolation level. -/
def Isolation.text : Isolation → String
  | split => "Split"
  | degraded => "Degraded"

/-- The windows that a sandbox asks for. -/
inductive Layout where
  | split (code data : Window) (peripheral : Option Window)
  | combined (span : Window) (peripheral : Option Window)
deriving DecidableEq

/-- The regions that a sandbox gets. -/
structure Windows where
  code : Region
  data : Region
  peripheral : Option Region
  isolation : Isolation
deriving DecidableEq

namespace Window

/-- The locked region around a window. -/
def region (w : Window) (permissions : Permissions) : Except ProtectionError Region :=
  (Region.covering w.base w.length permissions true).mapError .encoding

end Window

namespace Windows

/-- Whether a region shares an address with the code or the data of the sandbox. -/
def meets (ws : Windows) (r : Region) : Bool := r.overlaps ws.code || r.overlaps ws.data

/-- The entries that grant the windows: code, then data unless it is the same region, then
the peripheral. -/
def plan (ws : Windows) : Except ProtectionError Plan := do
  let withCode ← Plan.empty.push (.region ws.code)
  let withData ← match ws.isolation with
    | .split => withCode.push (.region ws.data)
    | .degraded => .ok withCode
  match ws.peripheral with
  | some r => withData.push (.region r)
  | none => .ok withData

end Windows

namespace Layout

/-- The peripheral window of a layout. -/
def peripheral : Layout → Option Window
  | split _ _ p => p
  | combined _ p => p

/-- The regions for code and data, which may not overlap unless they are one span. -/
def memoryWindows (l : Layout) (peripheral : Option Region) : Except ProtectionError Windows :=
  match l with
  | split code data _ => do
    let code ← code.region .readExecute
    let data ← data.region .readWrite
    if code.overlaps data then .error .overlap
    else .ok { code, data, peripheral, isolation := .split }
  | combined span _ => do
    let span ← span.region .all
    .ok { code := span, data := span, peripheral, isolation := .degraded }

/-- The regions of a layout.  Of several faults the peripheral's comes first. -/
def windows (l : Layout) : Except ProtectionError Windows := do
  let peripheral ← match l.peripheral with
    | some w => (w.region .readWrite).map some
    | none => .ok none
  let ws ← l.memoryWindows peripheral
  if ws.peripheral.any ws.meets then .error .overlap else .ok ws

end Layout

end SandboxMonitor
