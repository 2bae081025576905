/-!
# Access permissions

`Permissions` are the three rights that a protection entry grants: to read, to write and
to execute.  They are the low three bits of a configuration octet, in that order.
-/

namespace SandboxMonitor

/-- The kinds of access that the hart checks. -/
inductive AccessKind where
  | read
  | write
  | execute
deriving DecidableEq

/-- A set of rights. -/
structure Permissions where
  read : Bool
  write : Bool
  execute : Bool
deriving DecidableEq

namespace Permissions

/-- No right at all. -/
def none : Permissions := ⟨false, false, false⟩

/-- Reading and writing. -/
def readWrite : Permissions := ⟨true, true, false⟩

/-- Reading and executing. -/
def readExecute : Permissions := ⟨true, false, true⟩

/-- Every right. -/
def all : Permissions := ⟨true, true, true⟩

/-- The rights whose bits are set in `n`: 1 reads, 2 writes, 4 executes. -/
def ofBits (n : Nat) : Permissions := ⟨n.testBit 0, n.testBit 1, n.testBit 2⟩

/-- The number whose bits are the rights of `p`. -/
def bits (p : Permissions) : Nat := p.read.toNat + 2 * p.write.toNat + 4 * p.execute.toNat

/-- Whether `p` grants an access of the given kind. -/
def allows (p : Permissions) : AccessKind → Bool
  | .read => p.read
  | .write => p.write
  | .execute => p.execute

/-- Whether `p` has every right of `q`. -/
def contains (p q : Permissions) : Bool :=
  (!q.read || p.read) && (!q.write || p.write) && (!q.execute || p.execute)

/-- The rights of `p` and of `q`. -/
def union (p q : Permissions) : Permissions :=
  ⟨p.read || q.read, p.write || q.write, p.execute || q.execute⟩

/-- Writing without reading is the combination that the hardware reserves. -/
def isReserved (p : Permissions) : Bool := p.write && !p.read

/-- Three characters, a dash for each missing right. -/
def text (p : Permissions) : String :=
  String.ofList [
    if p.read then 'r' else '-',
    if p.write then 'w' else '-',
    if p.execute then 'x' else '-']

@[simp]
theorem ofBits_bits (p : Permissions) :
  ofBits p.bits = p
  := by
  obtain ⟨r, w, x⟩ := p
  cases r <;> cases w <;> cases x <;> rfl

theorem bits_lt (p : Permissions) :
  p.bits < 8
  := by
  obtain ⟨r, w, x⟩ := p
  cases r <;> cases w <;> cases x <;> decide

end Permissions

end SandboxMonitor
