import SandboxMonitor.Protection.Bank

/-!
# Listing a bank

`listing` is the text that shows the first entries of a bank, one line each: the range that
an entry speaks of with its mode and rights, or only its address when it is disabled.
-/

namespace SandboxMonitor

/-- The line for an entry, given the address register before it. -/
def Entry.line (e : Entry) (index : Nat) (previous : UInt32) : String :=
  "  [" ++ Text.padded 2 index ++ "]: " ++
    match e.span previous with
    | some s =>
      "start=" ++ Text.hex 8 s.start ++ ", end=" ++ Text.hex 8 (s.stop - 1)
        ++ ", cfg=" ++ Text.octet e.cfg ++ " (" ++ e.mode.text ++ ") ("
        ++ (if e.isLocked then "l" else "-") ++ e.permissions.text ++ ")\n"
    | none => "pmpaddr=" ++ Text.word e.addr ++ " (OFF)\n"

/-- The lines for entries from an index on. -/
def listingFrom (index : Nat) (previous : UInt32) : List Entry → String
  | [] => ""
  | e :: rest => e.line index previous ++ listingFrom (index + 1) e.addr rest

/-- The lines for the first `count` entries that a bank has. -/
def listing {B : Type} [ProtectionBank B] (b : B) (count : Nat) : String :=
  listingFrom 0 0
    ((List.range (min count (ProtectionBank.entryCount b))).map (ProtectionBank.entry b))

end SandboxMonitor
