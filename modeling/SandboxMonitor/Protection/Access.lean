import SandboxMonitor.Protection.Bank

/-!
# What user mode may access

The hart checks an access of user mode against its protection registers.  An entry matches
the addresses that its mode and its address register name, the lowest-numbered entry that
matches a byte decides with its rights, and a byte that no entry matches is out of bounds.
`ProtectionBank.userMay` is this rule over the entries that a hart has.
-/

namespace SandboxMonitor

namespace Entry

/-- Whether the entry matches a byte address, given the address register before it. -/
def Matches (e : Entry) (previous : UInt32) (a : Nat) : Prop :=
  match e.mode with
  | .off => False
  | .topOfRange => 4 * previous.toNat ≤ a ∧ a < 4 * e.addr.toNat
  | .fourBytes => a / 4 = e.addr.toNat
  -- An address of the block differs from the register's only below the bit that ends the ones.
  | .block =>
    a >>> (trailingOnes 32 e.addr.toNat + 3)
      = (4 * e.addr.toNat) >>> (trailingOnes 32 e.addr.toNat + 3)

instance (e : Entry) (previous : UInt32) (a : Nat) : Decidable (e.Matches previous a) := by
  unfold Matches
  cases e.mode <;> infer_instance

end Entry

namespace ProtectionBank

variable {B : Type} [ProtectionBank B]

/-- The address register before an entry; there is a zero before the first one. -/
def previousAddr (b : B) : Nat → UInt32
  | 0 => 0
  | index + 1 => (entry b index).addr

/-- Whether an entry of the bank matches a byte address. -/
def MatchesAt (b : B) (a index : Nat) : Prop :=
  (entry b index).Matches (previousAddr b index) a

instance (b : B) (a index : Nat) : Decidable (MatchesAt b a index) :=
  inferInstanceAs (Decidable ((entry b index).Matches (previousAddr b index) a))

/-- The entry that decides about a byte address: the lowest-numbered one that matches. -/
def decider? (b : B) (a : Nat) : Option Nat :=
  (List.range (entryCount b)).find? fun index => MatchesAt b a index

/-- Whether user mode may make an access of some kind to a byte address. -/
def userMay (b : B) (kind : AccessKind) (a : Nat) : Bool :=
  match decider? b a with
  | some index => (entry b index).permissions.allows kind
  | none => false

end ProtectionBank

end SandboxMonitor
