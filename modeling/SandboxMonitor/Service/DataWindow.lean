import SandboxMonitor.Protection.Region

/-!
# The data window

A service touches sandbox memory only inside the `DataWindow`.  `DataWindow.check` accepts a
buffer whose end is a 32-bit address and that lies in the window; `Rejection` says why a call
was dropped.
-/

namespace SandboxMonitor

/-- Why a call is dropped. -/
inductive Rejection where
  | outOfWindow (ptr length : UInt32)
  | emptyBuffer
  | shortCounterBuffer (length : UInt32)
  | resultBufferOutOfWindow (addr : UInt32)
deriving DecidableEq

/-- The text of a rejection. -/
def Rejection.message : Rejection → String
  | outOfWindow ptr length =>
    "bad user buffer (" ++ Text.word ptr ++ ", len=" ++ toString length.toNat ++ ")"
  | emptyBuffer => "empty user buffer"
  | shortCounterBuffer length =>
    "counter buffer too short (len=" ++ toString length.toNat ++ ", need 16)"
  | resultBufferOutOfWindow addr => "result buffer " ++ Text.word addr ++ " outside the data window"

/-- The addresses from `low` up to but not including `high`. -/
structure DataWindow where
  low : UInt32
  high : Nat
deriving DecidableEq

namespace DataWindow

/-- The window without addresses. -/
def empty : DataWindow := ⟨0, 0⟩

/-- The addresses of a region. -/
def ofRegion (r : Region) : DataWindow := ⟨r.base, r.stop⟩

/-- Whether the bytes of a buffer lie in the window and end at a 32-bit address. -/
def admits (w : DataWindow) (ptr length : UInt32) : Bool :=
  ptr.toNat + length.toNat < UInt32.size && w.low ≤ ptr && ptr.toNat + length.toNat ≤ w.high

/-- Rejects a buffer that the window does not admit. -/
def check (w : DataWindow) (ptr length : UInt32) : Except Rejection Unit :=
  if w.admits ptr length then .ok () else .error (.outOfWindow ptr length)

/-- Whether the window stays inside a region. -/
def within (w : DataWindow) (r : Region) : Bool := r.base ≤ w.low && w.high ≤ r.stop

end DataWindow

end SandboxMonitor
