import SandboxMonitor.Protection.Bank

/-!
# Packed protection registers

A 32-bit hart keeps its sixteen protection entries in four configuration registers, each of
which packs the octets of four entries, and sixteen address registers.  `PackedBank` is this
register file with the lock rules: a write to a configuration register leaves the octets of
locked entries as they are, and a write to an address register is ignored when its entry, or
a range that starts there, is locked.  A write to one entry is a write to its address
register and then a configuration register read, changed in one octet and written back.
-/

namespace SandboxMonitor

/-- The octet of a word in one of its four lanes, of which lane 0 is the lowest. -/
def octetOf (w : UInt32) (lane : Nat) : UInt8 := (w >>> .ofNat (8 * lane)).toUInt8

/-- The word with the octet in one lane replaced. -/
def withOctet (w : UInt32) (lane : Nat) (b : UInt8) : UInt32 :=
  let shift : UInt32 := .ofNat (8 * lane)
  (w &&& ~~~((0xFF : UInt32) <<< shift)) ||| (b.toUInt32 <<< shift)

/-- Four configuration registers and sixteen address registers. -/
structure PackedBank where
  config : Vector UInt32 4
  address : Vector UInt32 16
deriving DecidableEq

namespace PackedBank

/-- The number of entries. -/
def size : Nat := 16

/-- Registers that are all zero. -/
def clear : PackedBank := ⟨.replicate 4 0, .replicate 16 0⟩

/-- What a configuration register reads as; one that does not exist reads zero. -/
def readConfig (b : PackedBank) (k : Nat) : UInt32 := b.config[k]?.getD 0

/-- What an address register reads as; one that does not exist reads zero. -/
def readAddress (b : PackedBank) (i : Nat) : UInt32 := b.address[i]?.getD 0

/-- What an entry reads as. -/
def entry (b : PackedBank) (i : Nat) : Entry :=
  ⟨octetOf (b.readConfig (i / 4)) (i % 4), b.readAddress i⟩

/-- The word `w` with the octet of a lane as configuration register `k` has it, if the entry
in that lane is locked. -/
def keepLane (b : PackedBank) (k : Nat) (w : UInt32) (lane : Nat) : UInt32 :=
  if (b.entry (4 * k + lane)).isLocked then withOctet w lane (octetOf (b.readConfig k) lane) else w

/-- What configuration register `k` holds after a write of `w`. -/
def keepLocked (b : PackedBank) (k : Nat) (w : UInt32) : UInt32 :=
  (List.range 4).foldl (b.keepLane k) w

/-- The bank after a write to a configuration register. -/
def writeConfig (b : PackedBank) (k : Nat) (w : UInt32) : PackedBank :=
  { b with config := b.config.setIfInBounds k (b.keepLocked k w) }

/-- Whether an address register ignores writes. -/
def addrFrozen (b : PackedBank) (i : Nat) : Bool :=
  (b.entry i).isLocked || (i + 1 < size && (b.entry (i + 1)).freezesBelow)

/-- The bank after a write to an address register. -/
def writeAddress (b : PackedBank) (i : Nat) (addr : UInt32) : PackedBank :=
  if b.addrFrozen i then b else { b with address := b.address.setIfInBounds i addr }

/-- The bank after a write to an entry: the address first, then the octet. -/
def write (b : PackedBank) (i : Nat) (e : Entry) : PackedBank :=
  let b := b.writeAddress i e.addr
  b.writeConfig (i / 4) (withOctet (b.readConfig (i / 4)) (i % 4) e.cfg)

instance : ProtectionBank PackedBank where
  entryCount _ := size
  entry := entry
  write := write

/-- The bank with one entry replaced, whatever locks there are. -/
def put (b : PackedBank) (i : Nat) (e : Entry) : PackedBank where
  config := b.config.setIfInBounds (i / 4) (withOctet (b.readConfig (i / 4)) (i % 4) e.cfg)
  address := b.address.setIfInBounds i e.addr

end PackedBank

end SandboxMonitor
