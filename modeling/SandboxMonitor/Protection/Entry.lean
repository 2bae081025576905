import SandboxMonitor.Protection.Permissions
import SandboxMonitor.Text.Numeral

/-!
# Protection entries

An `Entry` is one pair of protection registers: a configuration octet and an address
register, which holds bits 33:2 of an address.  The octet says how the address is read
(`Entry.mode`), what the entry grants (`Entry.permissions`) and whether it is frozen until
reset (`Entry.isLocked`).  `Entry.span` is the range of addresses the entry speaks of.
-/

namespace SandboxMonitor

/-- How the address register of an entry is read. -/
inductive AddressMode where
  /-- The entry is disabled. -/
  | off
  /-- The address is the top of a range that starts at the previous entry's address. -/
  | topOfRange
  /-- The address is that of four bytes. -/
  | fourBytes
  /-- The trailing ones of the address give the size of an aligned block. -/
  | block
deriving DecidableEq

namespace AddressMode

/-- The two bits that select a mode. -/
def code : AddressMode → Nat
  | off => 0
  | topOfRange => 1
  | fourBytes => 2
  | block => 3

/-- The mode that the two low bits of a number select. -/
def ofCode (n : Nat) : AddressMode :=
  match n % 4 with
  | 0 => off
  | 1 => topOfRange
  | 2 => fourBytes
  | _ => block

/-- The architecture's abbreviation, filled to five characters. -/
def text : AddressMode → String
  | off => "OFF  "
  | topOfRange => "TOR  "
  | fourBytes => "NA4  "
  | block => "NAPOT"

@[simp]
theorem ofCode_code (mode : AddressMode) :
  ofCode mode.code = mode
  := by
  cases mode <;> rfl

end AddressMode

/-- The addresses from `start` up to but not including `stop`. -/
structure Span where
  start : Nat
  stop : Nat
deriving DecidableEq

/-- One pair of protection registers. -/
structure Entry where
  /-- The configuration octet. -/
  cfg : UInt8
  /-- Bits 33:2 of an address. -/
  addr : UInt32
deriving DecidableEq

/-- The number of ones at the low end of the `width` low bits of `n`. -/
def trailingOnes (width n : Nat) : Nat :=
  (List.range width).findIdx fun i => !n.testBit i

namespace Entry

/-- Both registers zero. -/
def zero : Entry := ⟨0, 0⟩

/-- The entry with the given fields. -/
def ofFields (mode : AddressMode) (permissions : Permissions) (locked : Bool) (addr : UInt32) :
    Entry :=
  ⟨.ofNat (permissions.bits + 8 * mode.code + 128 * locked.toNat), addr⟩

/-- A disabled entry, kept for its address. -/
def off (addr : UInt32) : Entry := ⟨0, addr⟩

/-- Bits 3 and 4 of the octet. -/
def mode (e : Entry) : AddressMode := .ofCode (e.cfg.toNat / 8)

/-- Bits 0 to 2 of the octet. -/
def permissions (e : Entry) : Permissions := .ofBits e.cfg.toNat

/-- Bit 7 of the octet. -/
def isLocked (e : Entry) : Bool := e.cfg.toNat.testBit 7

/-- A locked top of range also freezes the address below it, which is its own start. -/
def freezesBelow (e : Entry) : Bool := e.isLocked && e.mode = .topOfRange

/-- The base, as a 32-bit address, and the size of the block that a block entry names. -/
def blockWindow (e : Entry) : Option (UInt32 × Nat) :=
  match e.mode with
  | .block =>
    let ones := trailingOnes 32 e.addr.toNat
    some (.ofNat (4 * (e.addr.toNat >>> ones <<< ones)), 1 <<< (ones + 3))
  | _ => none

/-- The addresses that the entry speaks of, given the address register before it. -/
def span (e : Entry) (previous : UInt32) : Option Span :=
  match e.mode with
  | .off => none
  | .topOfRange => some ⟨4 * previous.toNat, 4 * e.addr.toNat⟩
  | .fourBytes => some ⟨4 * e.addr.toNat, 4 * e.addr.toNat + 4⟩
  | .block => e.blockWindow.map fun (base, size) => ⟨base.toNat, base.toNat + size⟩

/-- The entry as a log line names it. -/
def text (e : Entry) : String :=
  "ProtectionEntry \x7b cfg: " ++ Text.octet e.cfg ++ ", addr: " ++ Text.word e.addr ++ " \x7d"

end Entry

end SandboxMonitor
