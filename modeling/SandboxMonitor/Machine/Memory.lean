/-!
# Memory

A `Memory` is a list of segments of bytes.  An access of some bytes at an address must lie
inside one segment; the first segment that holds it is used.  When no segment does,
`Memory.read?` answers nothing and `Memory.write` changes nothing.
-/

namespace SandboxMonitor

/-- Bytes that stand at consecutive addresses. -/
structure Segment where
  base : UInt32
  bytes : Array UInt8
deriving DecidableEq

/-- The bytes `added` written over an array from an index on. -/
def overwrite (bytes : Array UInt8) (index : Nat) : List UInt8 → Array UInt8
  | [] => bytes
  | b :: rest => overwrite (bytes.setIfInBounds index b) (index + 1) rest

namespace Segment

/-- A segment of zeros. -/
def zeros (base : UInt32) (length : Nat) : Segment := ⟨base, Array.replicate length 0⟩

/-- The place of an address in the segment. -/
def offset (s : Segment) (addr : UInt32) : Nat := addr.toNat - s.base.toNat

/-- Whether the `length` bytes at an address lie inside the segment. -/
def holds (s : Segment) (addr : UInt32) (length : Nat) : Bool :=
  s.base ≤ addr && addr.toNat + length ≤ s.base.toNat + s.bytes.size

/-- The `length` bytes at an address. -/
def read (s : Segment) (addr : UInt32) (length : Nat) : List UInt8 :=
  (s.bytes.extract (s.offset addr) (s.offset addr + length)).toList

/-- The segment with bytes written at an address. -/
def write (s : Segment) (addr : UInt32) (added : List UInt8) : Segment :=
  { s with bytes := overwrite s.bytes (s.offset addr) added }

end Segment

/-- The memory that a hart can reach. -/
structure Memory where
  segments : List Segment
deriving DecidableEq

/-- The segments with bytes written to the first one that holds them. -/
def writeFirst (addr : UInt32) (added : List UInt8) : List Segment → List Segment
  | [] => []
  | s :: rest =>
    if s.holds addr added.length then s.write addr added :: rest
    else s :: writeFirst addr added rest

namespace Memory

/-- Whether the `length` bytes at an address lie inside one segment. -/
def holds (m : Memory) (addr : UInt32) (length : Nat) : Bool :=
  m.segments.any fun s => s.holds addr length

/-- The `length` bytes at an address. -/
def read? (m : Memory) (addr : UInt32) (length : Nat) : Option (List UInt8) :=
  (m.segments.find? fun s => s.holds addr length).map fun s => s.read addr length

/-- The memory with bytes written at an address, if one segment holds them. -/
def write (m : Memory) (addr : UInt32) (added : List UInt8) : Memory :=
  ⟨writeFirst addr added m.segments⟩

end Memory

theorem size_overwrite (bytes : Array UInt8) (index : Nat) (added : List UInt8) :
  (overwrite bytes index added).size = bytes.size
  := by
  induction added generalizing bytes index with
  | nil => rfl
  | cons b rest ih => simp [overwrite, ih]

@[simp]
theorem Segment.holds_write (s : Segment) (a : UInt32) (added : List UInt8) (addr : UInt32)
    (length : Nat) :
  (s.write a added).holds addr length = s.holds addr length
  := by
  unfold holds write
  rw [size_overwrite]

end SandboxMonitor
