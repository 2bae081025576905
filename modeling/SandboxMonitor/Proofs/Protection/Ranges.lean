import SandboxMonitor.Protection.Listing
import SandboxMonitor.Proofs.Protection.Decoding

/-!
# The range that an entry shows

`Entry.span` decodes a pair of registers whatever they hold, and `listing` shows the range to a
reader.  The addresses that a register can name have 34 bits, and of these the range is to have
the ones that the entry matches (`Span.IsEnforced`).  It has them unless the entry is a block
beyond the 32-bit addresses: the start of a block is kept as a 32-bit address, so such a block is
shown in a place where nothing is enforced (`listed_range_iff`).
-/

namespace SandboxMonitor

open ProtectionBank

/-- The address is one of the span. -/
def Span.Holds (s : Span) (a : Nat) : Prop := s.start ≤ a ∧ a < s.stop

instance (s : Span) (a : Nat) : Decidable (s.Holds a) :=
  inferInstanceAs (Decidable (_ ∧ _))

/-- Of the addresses that a register can name, the span has those that the entry matches. -/
def Span.IsEnforced (s : Span) (e : Entry) (previous : UInt32) : Prop :=
  ∀ a < 2 ^ 34, s.Holds a ↔ e.Matches previous a

namespace Entry

/-- The entry names a block in which there is no 32-bit address. -/
def IsHighBlock (e : Entry) : Prop := e.mode = .block ∧ ∀ a < 2 ^ 32, ¬ e.Matches 0 a

/-! ### Decoding -/

theorem trailingOnes_le (width n : Nat) :
  trailingOnes width n ≤ width
  := by
  apply Nat.le_trans List.findIdx_le_length
  rw [List.length_range]

/-- A block has the addresses from its first one on, and its span starts at what 32 bits hold of
that address. -/
theorem exists_block {e : Entry} (hmode : e.mode = .block) :
  ∃ first size, 0 < size ∧ first < 2 ^ 34 ∧ ∀ previous,
    (∀ a < 2 ^ 34, e.Matches previous a ↔ first ≤ a ∧ a < first + size)
      ∧ e.span previous = some ⟨first % 2 ^ 32, first % 2 ^ 32 + size⟩
  := by
  have hfits := e.addr.toNat_lt
  generalize hones : trailingOnes 32 e.addr.toNat = j
  rcases Nat.lt_or_eq_of_le (hones ▸ trailingOnes_le 32 e.addr.toNat) with hj | rfl
  · obtain ⟨q, hq⟩ := exists_eq_of_trailingOnes hones hj
    have hfirst : 2 ^ (j + 3) * q = 4 * (2 ^ j * (2 * q)) := by ring
    use 2 ^ (j + 3) * q, 2 ^ (j + 3), Nat.two_pow_pos _, by omega
    intro previous
    constructor
    · intro a _
      apply matches_block_iff hmode hj hq
    · rw [span, hmode]
      dsimp only
      rw [blockWindow_eq hmode hj hq, Option.map_some, UInt32.toNat_ofNat']
  · -- The block of a register that is all ones has every address, and more.
    use 0, 2 ^ 35, by decide, by decide
    intro previous
    constructor
    · intro a ha
      have hblock : 4 * e.addr.toNat / 2 ^ 35 = 0 := Nat.div_eq_of_lt (by omega)
      rw [Matches, hmode]
      dsimp only
      rw [hones, Nat.shiftRight_eq_div_pow, Nat.shiftRight_eq_div_pow, hblock,
        Nat.div_eq_of_lt (by omega)]
      simp only [true_iff]
      omega
    · have hnumber : e.addr.toNat >>> 32 = 0 := by
        rw [Nat.shiftRight_eq_div_pow]
        apply Nat.div_eq_of_lt hfits
      rw [span, hmode]
      dsimp only
      rw [blockWindow, hmode]
      dsimp only
      rw [hones, hnumber]
      rfl

/-- An entry speaks of no range just when it is disabled. -/
theorem span_eq_none_iff {e : Entry} {previous : UInt32} :
  e.span previous = none ↔ e.mode = .off
  := by
  cases hmode : e.mode with
  | off => simp [span, hmode]
  | topOfRange => simp [span, hmode]
  | fourBytes => simp [span, hmode]
  | block =>
    obtain ⟨_, _, -, -, hblock⟩ := exists_block hmode
    simp [(hblock previous).2]

/-- A block lies beyond the 32-bit addresses when its first address does. -/
theorem isHighBlock_iff {e : Entry} (hmode : e.mode = .block) {first size : Nat} (hsize : 0 < size)
    (hfirst : first < 2 ^ 34)
    (hmatches : ∀ a < 2 ^ 34, e.Matches 0 a ↔ first ≤ a ∧ a < first + size) :
  e.IsHighBlock ↔ 2 ^ 32 ≤ first
  := by
  constructor
  · rintro ⟨-, hnone⟩
    by_contra hlow
    apply hnone first (by omega)
    apply (hmatches first hfirst).mpr
    omega
  · intro hbeyond
    use hmode
    intro a ha hmatch
    have hinside := (hmatches a (by omega)).mp hmatch
    omega

/-- The range of an entry is enforced, unless the entry is a block beyond the 32-bit addresses. -/
theorem isEnforced_iff {e : Entry} {previous : UInt32} {s : Span}
    (h : e.span previous = some s) :
  s.IsEnforced e previous ↔ ¬ e.IsHighBlock
  := by
  have hlow : e.mode ≠ .block → ¬ e.IsHighBlock := fun hmode hhigh => hmode hhigh.1
  cases hmode : e.mode with
  | off =>
    rw [span_eq_none_iff.mpr hmode] at h
    cases h
  | topOfRange =>
    rw [span, hmode] at h
    cases h
    apply iff_of_true _ (hlow (by rw [hmode]; decide))
    intro a _
    rw [Matches, hmode]
    rfl
  | fourBytes =>
    rw [span, hmode] at h
    cases h
    apply iff_of_true _ (hlow (by rw [hmode]; decide))
    intro a _
    rw [Matches, hmode, Span.Holds]
    dsimp only
    omega
  | block =>
    obtain ⟨first, size, hsize, hfirst, hblock⟩ := exists_block hmode
    obtain ⟨hmatches, hspan⟩ := hblock previous
    rw [hspan] at h
    cases h
    rw [isHighBlock_iff hmode hsize hfirst (hblock 0).1, Nat.not_le]
    constructor
    · intro henforced
      by_contra hbeyond
      have hshown := henforced (first % 2 ^ 32) (by omega)
      rw [hmatches _ (by omega), Span.Holds] at hshown
      dsimp only at hshown
      omega
    · intro hlow a ha
      rw [hmatches a ha, Span.Holds, Nat.mod_eq_of_lt hlow]

/-! ### Listing -/

/-- The line that shows a range, by its first and its last address. -/
def rangeLine (e : Entry) (index first last : Nat) : String :=
  "  [" ++ Text.padded 2 index ++ "]: " ++
    ("start=" ++ Text.hex 8 first ++ ", end=" ++ Text.hex 8 last
      ++ ", cfg=" ++ Text.octet e.cfg ++ " (" ++ e.mode.text ++ ") ("
      ++ (if e.isLocked then "l" else "-") ++ e.permissions.text ++ ")\n")

theorem line_eq_rangeLine {e : Entry} {previous : UInt32} {s : Span}
    (h : e.span previous = some s) (index : Nat) :
  e.line index previous = e.rangeLine index s.start (s.stop - 1)
  := by
  unfold line
  rw [h]
  rfl

end Entry

section Listing

variable {B : Type} [ProtectionBank B]

/-- Each entry is listed with the address register before it. -/
theorem listingFrom_eq (b : B) (first count : Nat) :
  listingFrom first (previousAddr b first) ((List.range' first count).map (entry b))
    = String.join ((List.range' first count).map fun index =>
      (entry b index).line index (previousAddr b index))
  := by
  induction count generalizing first with
  | zero => rfl
  | succ count ih =>
    rw [List.range'_succ, List.map_cons, List.map_cons, listingFrom, String.join_cons, ← ih]
    rfl

theorem listing_eq (b : B) (count : Nat) :
  listing b count
    = String.join ((List.range (min count (entryCount b))).map fun index =>
      (entry b index).line index (previousAddr b index))
  := by
  rw [List.range_eq_range', ← listingFrom_eq, listing, List.range_eq_range']
  rfl

/-- The range that an entry decodes to, with the address register before it, is the one that the
hardware enforces, unless the entry is a block beyond the 32-bit addresses; and an entry without a
range is disabled.  A listing has a line for each of the first entries of a bank, and a range that
is not empty is shown by its first and its last address: again the enforced ones, but for blocks
beyond the 32-bit addresses. -/
theorem listed_range_iff :
  (∀ (e : Entry) (previous : UInt32), e.span previous = none ↔ e.mode = .off)
    ∧ (∀ (e : Entry) (previous : UInt32) (s : Span), e.span previous = some s →
      (s.IsEnforced e previous ↔ ¬ e.IsHighBlock))
    ∧ ∀ (b : B) (count : Nat),
      listing b count
          = String.join ((List.range (min count (entryCount b))).map fun index =>
            (entry b index).line index (previousAddr b index))
        ∧ ∀ index < min count (entryCount b), ∀ s,
          (entry b index).span (previousAddr b index) = some s → s.start < s.stop →
          ∃ first last,
            (entry b index).line index (previousAddr b index)
                = (entry b index).rangeLine index first last
              ∧ ((∀ a < 2 ^ 34, MatchesAt b a index ↔ first ≤ a ∧ a ≤ last)
                ↔ ¬ (entry b index).IsHighBlock)
  := by
  refine ⟨fun _ _ => Entry.span_eq_none_iff, fun _ _ _ => Entry.isEnforced_iff, ?_⟩
  intro b count
  use listing_eq b count
  intro index _ s hspan hnonempty
  use s.start, s.stop - 1, Entry.line_eq_rangeLine hspan index
  rw [← Entry.isEnforced_iff hspan]
  have hlast : ∀ a, s.Holds a ↔ s.start ≤ a ∧ a ≤ s.stop - 1 := by
    intro a
    rw [Span.Holds]
    omega
  constructor
  · intro henforced a ha
    rw [hlast]
    apply (henforced a ha).symm
  · intro henforced a ha
    rw [← hlast]
    apply (henforced a ha).symm

end Listing

/-- A bank that holds a block of 32 KiB. -/
def oneWindow : RegisterBank := (RegisterBank.clear 16).put 0 ⟨0x9F, 0x1EFFF⟩

/-- A block of 32 KiB is shown as it is enforced. -/
theorem listed_range_iff_window :
  (Span.mk 0x78000 0x80000).IsEnforced (entry oneWindow 0) 0
    ∧ ∃ first last,
      (entry oneWindow 0).line 0 0 = (entry oneWindow 0).rangeLine 0 first last
        ∧ ∀ a < 2 ^ 34, MatchesAt oneWindow a 0 ↔ first ≤ a ∧ a ≤ last
  := by
  obtain ⟨-, henforced, hlisted⟩ := listed_range_iff (B := RegisterBank)
  have hlow : ¬ (entry oneWindow 0).IsHighBlock := by
    rintro ⟨-, hnone⟩
    apply hnone 0x78000 (by decide)
    decide
  have hspan : (entry oneWindow 0).span 0 = some ⟨0x78000, 0x80000⟩ := by decide
  use (henforced _ _ _ hspan).mpr hlow
  obtain ⟨first, last, hline, hshown⟩ :=
    (hlisted oneWindow 1).2 0 (by decide) _ hspan (by decide)
  use first, last, hline, hshown.mpr hlow

/-- A bank that holds eight bytes just after the 32-bit addresses. -/
def highWindow : RegisterBank := (RegisterBank.clear 16).put 0 ⟨0x1F, 0x40000000⟩

/-- Eight bytes after the 32-bit addresses are shown as the first eight bytes of memory, none of
which the entry matches. -/
theorem high_block_shown_low :
  (entry highWindow 0).span 0 = some ⟨0, 8⟩
    ∧ (Span.mk 0 8).Holds 0 ∧ ¬ MatchesAt highWindow 0 0
    ∧ ¬ (Span.mk 0 8).Holds (2 ^ 32) ∧ MatchesAt highWindow (2 ^ 32) 0
    ∧ listing highWindow 1
      = "  [00]: start=0x00000000, end=0x00000007, cfg=0x1f (NAPOT) (-rwx)\n"
  := by
  refine ⟨by decide, by decide, by decide, by decide, by decide, ?_⟩
  decide +kernel

end SandboxMonitor
