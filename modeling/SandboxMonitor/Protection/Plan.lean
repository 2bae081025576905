import SandboxMonitor.Protection.Region

/-!
# Plans

A `Plan` is the list of entries that an installation is to write, in order of priority.
`Plan.push` adds what a `Push` asks for: a region takes one entry, an exact range takes two.
A push either adds all the entries it needs or fails, and a plan never outgrows
`Plan.capacity`.
-/

namespace SandboxMonitor

/-- Why the protection registers could not be set up. -/
inductive ProtectionError where
  | encoding (cause : EncodeError)
  | overlap
  | tooManyEntries (needed available : Nat)
  | entryLocked (index : Nat)
  | readback (index : Nat) (wrote read : Entry)
deriving DecidableEq

/-- The text of a protection error. -/
def ProtectionError.message : ProtectionError → String
  | encoding cause => "cannot encode window: " ++ cause.message
  | overlap => "sandbox windows overlap after rounding"
  | tooManyEntries needed available =>
    "plan needs " ++ toString needed ++ " PMP entries, " ++ toString available ++ " available"
  | entryLocked index => "PMP entry " ++ toString index ++ " is already locked"
  | readback index wrote read =>
    "PMP entry " ++ toString index
      ++ " read back cfg=" ++ Text.octet read.cfg ++ " addr=" ++ Text.word read.addr
      ++ ", wrote cfg=" ++ Text.octet wrote.cfg ++ " addr=" ++ Text.word wrote.addr

/-- A window to be granted. -/
inductive Push where
  /-- A region, which takes one entry. -/
  | region (r : Region)
  /-- The addresses from `start` to `stop`, which take two entries. -/
  | range (start stop : UInt32) (permissions : Permissions) (locked : Bool)
deriving DecidableEq

/-- The entries that a push adds. -/
def Push.entries : Push → Except EncodeError (List Entry)
  | region r => .ok [r.entry]
  | range start stop permissions locked =>
    (rangeEntries start stop permissions locked).map fun (bottom, top) => [bottom, top]

/-- The most entries that a plan may have. -/
def Plan.capacity : Nat := 16

/-- Entries to be written from index 0 on. -/
structure Plan where
  entries : List Entry
  fits : entries.length ≤ Plan.capacity
deriving DecidableEq

namespace Plan

/-- The plan without entries. -/
def empty : Plan := ⟨[], Nat.zero_le _⟩

/-- The number of entries of a plan. -/
def size (p : Plan) : Nat := p.entries.length

/-- The plan with `added` at its end, or the refusal when there is no room. -/
def append (p : Plan) (added : List Entry) : Except ProtectionError Plan :=
  if h : (p.entries ++ added).length ≤ capacity then .ok ⟨p.entries ++ added, h⟩
  else .error (.tooManyEntries (p.size + added.length) capacity)

/-- The plan with what a push adds. -/
def push (p : Plan) (w : Push) : Except ProtectionError Plan :=
  match w.entries with
  | .error e => .error (.encoding e)
  | .ok added => p.append added

theorem append_eq_ok_iff {p q : Plan} {added : List Entry} :
  p.append added = .ok q
    ↔ q.entries = p.entries ++ added ∧ (p.entries ++ added).length ≤ capacity
  := by
  unfold append
  split
  · rename_i h
    constructor
    · rintro ⟨⟩
      exact ⟨rfl, h⟩
    · rintro ⟨hq, -⟩
      cases q
      cases hq
      rfl
  · rename_i h
    constructor
    · rintro ⟨⟩
    · rintro ⟨-, hfits⟩
      exact absurd hfits h

end Plan

end SandboxMonitor
