import SandboxMonitor.Protection.Entry

/-!
# Banks of protection registers

`ProtectionBank` is what software sees of a hart's protection registers: how many entries
there are, what an entry reads as, and a write that the hardware may honour in part.
`RegisterBank` is a bank that keeps each entry by itself.  It follows the lock rules: a
locked entry ignores writes, and a locked top of range also keeps the address below it,
where its range starts.  Its hardware may moreover keep only some bits, or drop the writes
to some entries.
-/

namespace SandboxMonitor

/-- Protection registers as software sees them. -/
class ProtectionBank (B : Type) where
  /-- The number of entries that the hart has. -/
  entryCount : B → Nat
  /-- What an entry reads as. -/
  entry : B → Nat → Entry
  /-- The bank after a write to an entry. -/
  write : B → Nat → Entry → B

/-- A bank that keeps each entry by itself. -/
structure RegisterBank where
  entryCount : Nat
  entries : Nat → Entry
  /-- The bits that a configuration octet can hold. -/
  cfgMask : UInt8
  /-- The bits that an address register can hold. -/
  addrMask : UInt32
  /-- The entries whose writes the hardware drops. -/
  stuck : List Nat

namespace RegisterBank

/-- A bank whose registers are all zero, on hardware that drops nothing. -/
def clear (entryCount : Nat) : RegisterBank :=
  ⟨entryCount, fun _ => .zero, 0xFF, 0xFFFFFFFF, []⟩

/-- The bank with one entry replaced, whatever locks there are. -/
def put (b : RegisterBank) (index : Nat) (e : Entry) : RegisterBank :=
  { b with entries := fun i => if i = index then e else b.entries i }

/-- Whether the address of an entry is kept by a lock on the entry above it. -/
def addrFrozen (b : RegisterBank) (index : Nat) : Bool :=
  index + 1 < b.entryCount && (b.entries (index + 1)).freezesBelow

/-- What an entry holds after a write that reaches it. -/
def settled (b : RegisterBank) (index : Nat) (e : Entry) : Entry where
  cfg := e.cfg &&& b.cfgMask
  addr := if b.addrFrozen index then (b.entries index).addr else e.addr &&& b.addrMask

/-- The bank after a write. -/
def write (b : RegisterBank) (index : Nat) (e : Entry) : RegisterBank :=
  if b.stuck.contains index || (b.entries index).isLocked then b
  else b.put index (b.settled index e)

instance : ProtectionBank RegisterBank where
  entryCount := entryCount
  entry := entries
  write := write

@[simp]
theorem entries_put (b : RegisterBank) (index : Nat) (e : Entry) (i : Nat) :
  (b.put index e).entries i = if i = index then e else b.entries i
  := rfl

theorem entries_write_of_ne (b : RegisterBank) {index i : Nat} (e : Entry) (h : i ≠ index) :
  (b.write index e).entries i = b.entries i
  := by
  unfold write
  split
  · rfl
  · simp [h]

theorem write_of_isLocked (b : RegisterBank) {index : Nat} (e : Entry)
    (h : (b.entries index).isLocked = true) :
  b.write index e = b
  := by
  simp [write, h]

end RegisterBank

end SandboxMonitor
