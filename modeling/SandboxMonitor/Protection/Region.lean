import SandboxMonitor.Protection.Entry

/-!
# Regions

A `Region` is a block of memory that one protection entry can name: its length is a power
of two, at least eight bytes, and its base a multiple of the length.  `Region.covering`
rounds a window to the least such block around it, and `Region.entry` encodes the block.
`rangeEntries` encodes a window exactly, with two entries.
-/

namespace SandboxMonitor

/-- Why a window has no encoding. -/
inductive EncodeError where
  | zeroLength
  | exceedsAddressSpace (base length : UInt32)
  | writeWithoutRead
  | misaligned (addr : UInt32)
  | emptyRange (start stop : UInt32)
deriving DecidableEq

/-- The text of an encoding error. -/
def EncodeError.message : EncodeError → String
  | zeroLength => "zero-length window"
  | exceedsAddressSpace base length =>
    "window " ++ Text.word base ++ "+" ++ Text.hex 0 length.toNat
      ++ " exceeds the 32-bit address space"
  | writeWithoutRead => "write permission without read"
  | misaligned addr => "address " ++ Text.word addr ++ " not 4-byte aligned"
  | emptyRange start stop => "empty range [" ++ Text.word start ++ ", " ++ Text.word stop ++ ")"

/-- The size in bytes of the smallest block. -/
def minBlock : Nat := 8

/-- A block of the address space: a power of two of bytes at a multiple of its size. -/
def IsBlock (base length : Nat) : Prop :=
  ∃ k, 3 ≤ k ∧ k ≤ 31 ∧ length = 1 <<< k ∧ base % (1 <<< k) = 0

/-- A block with the rights it grants. -/
structure Region where
  base : UInt32
  length : UInt32
  permissions : Permissions
  locked : Bool
  isBlock : IsBlock base.toNat length.toNat
deriving DecidableEq

/-- The exponent of the least power of two that is no less than a number. -/
def ceilLog2 (n : Nat) : Nat := if n ≤ 1 then 0 else (n - 1).log2 + 1

/-- The exponent of the first block to try for a window: the block is at least as long as the
window. -/
def firstExponent (length : Nat) : Nat := max 3 (ceilLog2 length)

/-- The first address after the block of `1 <<< k` bytes around `base`. -/
def blockStop (base k : Nat) : Nat := (base >>> k <<< k) + 1 <<< k

/-- Doubles the block of `1 <<< k` bytes around `base` until it reaches `stop`, and answers the
exponent of its size.  Sizes and ends of blocks are words of 64 bits: `room` counts the sizes from
this one on that such a word holds, and nothing is answered when one of them outgrows it. -/
def widen (base stop k : Nat) : (room : Nat) → Option Nat
  | 0 => none
  | room + 1 =>
    if UInt64.size ≤ blockStop base k then none
    else if blockStop base k < stop then widen base stop (k + 1) room
    else some k

/-- The exponent of the least block that covers a window, or 64 if no 64-bit word holds its
size. -/
def coverExponent (base length : Nat) : Nat :=
  (widen base (base + length) (firstExponent length) (64 - firstExponent length)).getD 64

theorem le_of_widen {base stop k room j : Nat} (h : widen base stop k room = some j) :
  k ≤ j
  := by
  induction room generalizing k with
  | zero => cases h
  | succ room ih =>
    rw [widen] at h
    split at h
    · cases h
    split at h
    · apply Nat.le_of_succ_le (ih h)
    · cases h
      apply Nat.le_refl

theorem three_le_coverExponent (base length : Nat) :
  3 ≤ coverExponent base length
  := by
  unfold coverExponent
  cases h : widen base (base + length) (firstExponent length) (64 - firstExponent length) with
  | none => decide
  | some k => apply Nat.le_trans (Nat.le_max_left 3 _) (le_of_widen h)

theorem isBlock_alignedDown (base : UInt32) {k : Nat} (hlo : 3 ≤ k) (hhi : k ≤ 31) :
  IsBlock (UInt32.ofNat (base.toNat >>> k <<< k)).toNat (UInt32.ofNat (1 <<< k)).toNat
  := by
  have hbase : base.toNat / 2 ^ k * 2 ^ k < 2 ^ 32 :=
    Nat.lt_of_le_of_lt (Nat.div_mul_le_self _ _) base.toNat_lt
  have hsize : 2 ^ k < 2 ^ 32 := Nat.pow_lt_pow_right (by decide) (by omega)
  refine ⟨k, hlo, hhi, ?_, ?_⟩
  · rw [UInt32.toNat_ofNat', Nat.one_shiftLeft, Nat.mod_eq_of_lt hsize]
  · rw [UInt32.toNat_ofNat', Nat.shiftLeft_eq, Nat.shiftRight_eq_div_pow,
      Nat.mod_eq_of_lt hbase, Nat.one_shiftLeft, Nat.mul_mod_left]

namespace Region

/-- The least block around a window of memory, with the given rights. -/
def covering (base length : UInt32) (permissions : Permissions) (locked : Bool) :
    Except EncodeError Region :=
  if length = 0 then .error .zeroLength
  else if permissions.isReserved then .error .writeWithoutRead
  else
    let k := coverExponent base.toNat length.toNat
    if h : k ≤ 31 then
      .ok {
        base := .ofNat (base.toNat >>> k <<< k)
        length := .ofNat (1 <<< k)
        permissions
        locked
        isBlock := isBlock_alignedDown base (three_le_coverExponent _ _) h }
    else .error (.exceedsAddressSpace base length)

/-- The first address after the region. -/
def stop (r : Region) : Nat := r.base.toNat + r.length.toNat

/-- Whether the `len` bytes at `addr` lie in the region. -/
def contains (r : Region) (addr len : UInt32) : Bool :=
  r.base ≤ addr && addr.toNat + len.toNat ≤ r.stop

/-- Whether two regions share an address. -/
def overlaps (r s : Region) : Bool := r.base.toNat < s.stop && s.base.toNat < r.stop

/-- The address register that names the block: its trailing ones give the size. -/
def blockAddr (r : Region) : UInt32 := (r.base >>> 2) ||| ((r.length >>> 3) - 1)

/-- The entry that grants the region. -/
def entry (r : Region) : Entry := .ofFields .block r.permissions r.locked r.blockAddr

end Region

/-- The entry that grants the least block around a window. -/
def blockEntry (base length : UInt32) (permissions : Permissions) (locked : Bool) :
    Except EncodeError Entry :=
  (Region.covering base length permissions locked).map Region.entry

/-- The two entries that grant the addresses from `start` to `stop`: a disabled one that
holds the start, and the top of the range. -/
def rangeEntries (start stop : UInt32) (permissions : Permissions) (locked : Bool) :
    Except EncodeError (Entry × Entry) :=
  if permissions.isReserved then .error .writeWithoutRead
  else if start % 4 ≠ 0 then .error (.misaligned start)
  else if stop % 4 ≠ 0 then .error (.misaligned stop)
  else if stop ≤ start then .error (.emptyRange start stop)
  else .ok (.off (start >>> 2), .ofFields .topOfRange permissions locked (stop >>> 2))

end SandboxMonitor
