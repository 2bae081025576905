import SandboxMonitor.Hart.Instruction
import SandboxMonitor.Proofs.Machine.Memory

/-!
# Words in memory

A word is kept as its four octets, the lowest first.  `Memory.word?` is the word at an
address.  A word that is written is read back, and a write elsewhere leaves it as it was
(`Memory.word?_write_self`, `Memory.word?_write_of_apart`).
-/

namespace SandboxMonitor

/-- The octets of a word give its number back. -/
theorem littleEndian_wordOctets (w : UInt32) :
  littleEndian (wordOctets w) = w.toNat
  := by
  have hlt := w.toNat_lt
  simp only [wordOctets, littleEndian, UInt32.toNat_toUInt8, UInt32.toNat_shiftRight,
    Nat.shiftRight_eq_div_pow]
  change w.toNat % 256 + 256 * (w.toNat / 2 ^ 8 % 256 + 256 * (w.toNat / 2 ^ 16 % 256
    + 256 * (w.toNat / 2 ^ 24 % 256 + 256 * 0))) = w.toNat
  omega

/-! ### Reading back what was written -/

theorem getElem?_overwrite (bytes : Array UInt8) {index i : Nat} (added : List UInt8)
    (hfits : index + added.length ≤ bytes.size) (hi : i < added.length) :
  (overwrite bytes index added)[index + i]? = added[i]?
  := by
  induction added generalizing bytes index i with
  | nil => cases hi
  | cons b rest ih =>
    rw [List.length_cons] at hfits hi
    rw [overwrite]
    cases i with
    | zero =>
      rw [Nat.add_zero index, getElem?_overwrite_of_outside _ _ (.inl (Nat.lt_add_one index)),
        Array.getElem?_setIfInBounds_self_of_lt (by omega), List.getElem?_cons_zero]
    | succ i =>
      have hshift : index + (i + 1) = index + 1 + i := by omega
      rw [hshift, List.getElem?_cons_succ]
      apply ih
      · rw [Array.size_setIfInBounds]
        omega
      · omega

namespace Segment

theorem length_read {s : Segment} {addr : UInt32} {length : Nat}
    (h : s.holds addr length = true) :
  (s.read addr length).length = length
  := by
  rw [holds, Bool.and_eq_true, decide_eq_true_eq, decide_eq_true_eq,
    UInt32.le_iff_toNat_le] at h
  rw [read, Array.length_toList, Array.size_extract, offset]
  omega

/-- Bytes that are written to a segment are read back. -/
theorem read_write_self {s : Segment} {addr : UInt32} {added : List UInt8}
    (h : s.holds addr added.length = true) :
  (s.write addr added).read addr added.length = added
  := by
  have hlength : ((s.write addr added).read addr added.length).length = added.length := by
    apply length_read
    rw [holds_write]
    apply h
  rw [holds, Bool.and_eq_true, decide_eq_true_eq, decide_eq_true_eq,
    UInt32.le_iff_toNat_le] at h
  have hfits : s.offset addr + added.length ≤ s.bytes.size := by
    rw [offset]
    omega
  apply List.ext_getElem?
  intro i
  by_cases hi : i < added.length
  · rw [read, Array.getElem?_toList, Array.getElem?_extract, write, size_overwrite]
    change (if i < min (s.offset addr + added.length) s.bytes.size - s.offset addr then
      (overwrite s.bytes (s.offset addr) added)[s.offset addr + i]? else none) = added[i]?
    rw [if_pos (by omega), getElem?_overwrite s.bytes added hfits hi]
  · rw [List.getElem?_eq_none (by omega), List.getElem?_eq_none (by omega)]

end Segment

namespace Memory

theorem isSome_read? (m : Memory) (addr : UInt32) (length : Nat) :
  (m.read? addr length).isSome = m.holds addr length
  := by
  rw [read?, Option.isSome_map, List.isSome_find?, holds]

theorem holds_write (m : Memory) (a addr : UInt32) (added : List UInt8) (length : Nat) :
  (m.write a added).holds addr length = m.holds addr length
  := by
  rw [← isSome_read?, ← isSome_read?, isSome_read?_write]

theorem length_of_read? {m : Memory} {addr : UInt32} {length : Nat} {bytes : List UInt8}
    (h : m.read? addr length = some bytes) :
  bytes.length = length
  := by
  obtain ⟨s, hs, rfl⟩ := Option.map_eq_some_iff.mp h
  have hholds := List.find?_some hs
  apply Segment.length_read hholds

theorem read?_zero {m : Memory} {addr : UInt32} (h : m.holds addr 0 = true) :
  m.read? addr 0 = some []
  := by
  rw [← isSome_read?] at h
  obtain ⟨bytes, hbytes⟩ := Option.isSome_iff_exists.mp h
  rw [hbytes, List.eq_nil_of_length_eq_zero (length_of_read? hbytes)]

/-- Bytes that are written to a memory are read back. -/
theorem read?_write_self {m : Memory} {addr : UInt32} {added : List UInt8}
    (h : m.holds addr added.length = true) :
  (m.write addr added).read? addr added.length = some added
  := by
  obtain ⟨segments⟩ := m
  rw [read?, write]
  induction segments with
  | nil => cases h
  | cons s rest ih =>
    rw [writeFirst]
    split
    · rename_i hwritten
      rw [List.find?_cons_of_pos (by rw [Segment.holds_write]; apply hwritten), Option.map_some,
        Segment.read_write_self hwritten]
    · rename_i hother
      rw [List.find?_cons_of_neg (by simpa using hother)]
      apply ih
      rw [holds, List.any_cons, Bool.or_eq_true] at h
      apply h.resolve_left hother

/-- Two memories read the same where they have the same addresses and bytes. -/
theorem read?_congr {m m' : Memory} {addr : UInt32} {length : Nat}
    (hmap : m'.holds addr length = m.holds addr length)
    (hbytes : ∀ i < length, (m'.read? addr length).map (fun bytes => bytes[i]?)
      = (m.read? addr length).map fun bytes => bytes[i]?) :
  m'.read? addr length = m.read? addr length
  := by
  rw [← isSome_read?, ← isSome_read?] at hmap
  cases hafter : m'.read? addr length with
  | none =>
    rw [hafter] at hmap
    symm
    rw [← Option.not_isSome_iff_eq_none, ← hmap]
    decide
  | some bytes =>
    rw [hafter, Option.isSome_some] at hmap
    obtain ⟨bytes', hbefore⟩ := Option.isSome_iff_exists.mp hmap.symm
    rw [hbefore, Option.some_inj]
    have hlength := length_of_read? hafter
    have hlength' := length_of_read? hbefore
    apply List.ext_getElem?
    intro i
    by_cases hi : i < length
    · have hbyte := hbytes i hi
      rw [hafter, hbefore] at hbyte
      apply Option.some_inj.mp hbyte
    · rw [List.getElem?_eq_none (by omega), List.getElem?_eq_none (by omega)]

/-- Bytes that are apart from a write are read as before. -/
theorem read?_write_of_apart (m : Memory) {a addr : UInt32} {added : List UInt8} {length : Nat}
    (h : addr.toNat + length ≤ a.toNat ∨ a.toNat + added.length ≤ addr.toNat) :
  (m.write a added).read? addr length = m.read? addr length
  := by
  apply read?_congr (m.holds_write a addr added length)
  intro i hi
  apply m.getElem?_read?_write length
  omega

/-! ### Words -/

/-- The word at an address. -/
def word? (m : Memory) (addr : UInt32) : Option UInt32 :=
  (m.read? addr 4).map fun bytes => .ofNat (littleEndian bytes)

theorem isSome_word? (m : Memory) (addr : UInt32) :
  (m.word? addr).isSome = m.holds addr 4
  := by
  rw [word?, Option.isSome_map, isSome_read?]

/-- A word that is written is read back. -/
theorem word?_write_self {m : Memory} {addr : UInt32} (h : m.holds addr 4 = true) (w : UInt32) :
  (m.write addr (wordOctets w)).word? addr = some w
  := by
  have hread : (m.write addr (wordOctets w)).read? addr 4 = some (wordOctets w) :=
    read?_write_self h
  rw [word?, hread, Option.map_some, littleEndian_wordOctets, UInt32.ofNat_toNat]

/-- A word that is apart from another one that is written is as before. -/
theorem word?_write_of_apart (m : Memory) {a addr : UInt32} (w : UInt32)
    (h : addr.toNat + 4 ≤ a.toNat ∨ a.toNat + 4 ≤ addr.toNat) :
  (m.write a (wordOctets w)).word? addr = m.word? addr
  := by
  rw [word?, word?, read?_write_of_apart]
  apply h

end Memory

end SandboxMonitor
