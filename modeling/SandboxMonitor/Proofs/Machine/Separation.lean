import Mathlib.Algebra.Group.Nat.Defs
import SandboxMonitor.Proofs.Machine.Words

/-!
# Memories whose segments are apart

Where no two segments share an address, it does not matter which of them an access finds
first: bytes can be read in one piece or in several (`Memory.Apart.read?_append`,
`Memory.Apart.read?_slice`), down to the single byte at an address, which is `Memory.byte?`.
Which addresses the segments have is their `Memory.extents`, which no write changes.
-/

namespace SandboxMonitor

/-- Addresses that stay below the end of memory do not wrap. -/
theorem toNat_add_ofNat {addr : UInt32} {n : Nat} (h : addr.toNat + n < 2 ^ 32) :
  (addr + .ofNat n).toNat = addr.toNat + n
  := by
  have hn : n < 2 ^ 32 := by omega
  rw [UInt32.toNat_add, UInt32.toNat_ofNat', Nat.mod_eq_of_lt hn, Nat.mod_eq_of_lt h]

namespace Segment

/-- The first address after a segment. -/
def stop (s : Segment) : Nat := s.base.toNat + s.bytes.size

theorem holds_iff {s : Segment} {addr : UInt32} {length : Nat} :
  s.holds addr length = true ↔ s.base.toNat ≤ addr.toNat ∧ addr.toNat + length ≤ s.stop
  := by
  rw [holds, Bool.and_eq_true, decide_eq_true_eq, decide_eq_true_eq, UInt32.le_iff_toNat_le, stop]

theorem holds_zeros (base : UInt32) {length n : Nat} (h : n ≤ length) :
  (zeros base length).holds base n = true
  := by
  rw [holds_iff, stop, zeros, Array.size_replicate]
  dsimp only
  omega

theorem read_append (s : Segment) {addr : UInt32} {n : Nat} (k : Nat) (hbase : s.base ≤ addr)
    (hfits : addr.toNat + n < 2 ^ 32) :
  s.read addr (n + k) = s.read addr n ++ s.read (addr + .ofNat n) k
  := by
  rw [UInt32.le_iff_toNat_le] at hbase
  have hoffset : s.offset (addr + .ofNat n) = s.offset addr + n := by
    rw [offset, offset, toNat_add_ofNat hfits]
    omega
  rw [read, read, read, hoffset, ← Array.toList_append, Array.extract_append_extract,
    Nat.min_eq_left (by omega), Nat.max_eq_right (by omega), Nat.add_assoc]

end Segment

namespace Memory

/-- The addresses of the segments. -/
def extents (m : Memory) : List (UInt32 × Nat) := m.segments.map fun s => (s.base, s.bytes.size)

theorem extents_write (m : Memory) (addr : UInt32) (added : List UInt8) :
  (m.write addr added).extents = m.extents
  := by
  obtain ⟨segments⟩ := m
  rw [extents, extents, write]
  induction segments with
  | nil => rfl
  | cons s rest ih =>
    rw [writeFirst]
    split
    · rw [List.map_cons, List.map_cons, Segment.write, size_overwrite]
    · rw [List.map_cons, List.map_cons, ih]

/-- What memory holds depends on its extents. -/
theorem holds_eq_any_extents (m : Memory) (addr : UInt32) (length : Nat) :
  m.holds addr length
    = m.extents.any fun e => e.1 ≤ addr && addr.toNat + length ≤ e.1.toNat + e.2
  := by
  rw [holds, extents, List.any_map]
  rfl

/-- No two segments share an address. -/
def Apart (m : Memory) : Prop :=
  m.extents.Pairwise fun e f => e.1.toNat + e.2 ≤ f.1.toNat ∨ f.1.toNat + f.2 ≤ e.1.toNat

theorem Apart.congr {m m' : Memory} (h : m.Apart) (hextents : m'.extents = m.extents) :
  m'.Apart
  := by
  rw [Apart, hextents]
  apply h

/-- A segment that holds some bytes is the one that is found for them. -/
theorem Apart.find?_eq {m : Memory} (h : m.Apart) {s : Segment} (hs : s ∈ m.segments)
    {addr : UInt32} {length : Nat} (hholds : s.holds addr length = true) (hpositive : 0 < length) :
  (m.segments.find? fun t => t.holds addr length) = some s
  := by
  obtain ⟨segments⟩ := m
  rw [Apart, extents, List.pairwise_map] at h
  induction segments with
  | nil => cases hs
  | cons t rest ih =>
    rw [List.pairwise_cons] at h
    cases hs with
    | head => rw [List.find?_cons_of_pos (by apply hholds)]
    | tail _ hs =>
      have hother : ¬ t.holds addr length = true := by
        have hapart := h.1 s hs
        dsimp only at hapart
        rw [Segment.holds_iff, Segment.stop] at hholds ⊢
        omega
      rw [List.find?_cons_of_neg (by apply hother)]
      apply ih h.2 hs

theorem Apart.read?_eq {m : Memory} (h : m.Apart) {s : Segment} (hs : s ∈ m.segments)
    {addr : UInt32} {length : Nat} (hholds : s.holds addr length = true) :
  m.read? addr length = some (s.read addr length)
  := by
  cases length with
  | zero =>
    have hzero : m.holds addr 0 = true := by
      rw [Memory.holds, List.any_eq_true]
      use s, hs
    rw [read?_zero hzero, List.eq_nil_of_length_eq_zero (Segment.length_read hholds)]
  | succ length => rw [read?, h.find?_eq hs hholds (Nat.zero_lt_succ _), Option.map_some]

/-- Bytes that memory holds in one piece can be read in two. -/
theorem Apart.read?_split {m : Memory} (h : m.Apart) {addr : UInt32} {n k : Nat}
    (hholds : m.holds addr (n + k) = true) (hfits : addr.toNat + n < 2 ^ 32) :
  ∃ xs ys, m.read? addr n = some xs ∧ m.read? (addr + .ofNat n) k = some ys
    ∧ m.read? addr (n + k) = some (xs ++ ys)
  := by
  rw [holds, List.any_eq_true] at hholds
  obtain ⟨s, hs, hholds⟩ := hholds
  have hbounds := Segment.holds_iff.mp hholds
  refine ⟨_, _, h.read?_eq hs ?_, h.read?_eq hs ?_, ?_⟩
  · rw [Segment.holds_iff]
    omega
  · rw [Segment.holds_iff, toNat_add_ofNat hfits]
    omega
  · rw [h.read?_eq hs hholds, s.read_append k (UInt32.le_iff_toNat_le.mpr hbounds.1) hfits]

theorem Apart.read?_append {m : Memory} (h : m.Apart) {addr : UInt32} {xs ys : List UInt8}
    (hholds : m.holds addr (xs.length + ys.length) = true)
    (hfits : addr.toNat + xs.length < 2 ^ 32) (hxs : m.read? addr xs.length = some xs)
    (hys : m.read? (addr + .ofNat xs.length) ys.length = some ys) :
  m.read? addr (xs ++ ys).length = some (xs ++ ys)
  := by
  obtain ⟨xs', ys', hxs', hys', hall⟩ := h.read?_split hholds hfits
  rw [hxs] at hxs'
  rw [hys] at hys'
  cases hxs'
  cases hys'
  rw [List.length_append]
  apply hall

/-- A piece of the bytes at an address can be read by itself. -/
theorem Apart.read?_slice {m : Memory} (h : m.Apart) {addr : UInt32} {length : Nat}
    {bytes : List UInt8} (hread : m.read? addr length = some bytes) {n k : Nat}
    (hslice : n + k ≤ length) (hfits : addr.toNat + n + k < 2 ^ 32) :
  m.read? (addr + .ofNat n) k = some ((bytes.drop n).take k)
  := by
  obtain ⟨r, rfl⟩ := Nat.exists_eq_add_of_le hslice
  have hholds : m.holds addr (n + k + r) = true := by
    rw [← isSome_read?, hread, Option.isSome_some]
  obtain ⟨front, back, hfront, -, hall⟩ := h.read?_split hholds (by omega)
  have hfrontHolds : m.holds addr (n + k) = true := by
    rw [← isSome_read?, hfront, Option.isSome_some]
  obtain ⟨xs, ys, hxs, hys, hboth⟩ := h.read?_split hfrontHolds (by omega)
  rw [hread, Option.some_inj] at hall
  rw [hfront, Option.some_inj] at hboth
  rw [hys, hall, hboth, List.append_assoc, List.drop_left' (length_of_read? hxs),
    List.take_left' (length_of_read? hys)]

/-! ### Single bytes -/

/-- The byte at an address. -/
def byte? (m : Memory) (addr : UInt32) : Option UInt8 := (m.read? addr 1).bind List.head?

/-- The memory has bytes at the addresses from one on. -/
def HasBytes (m : Memory) (addr : UInt32) (bytes : List UInt8) : Prop :=
  ∀ i (h : i < bytes.length), m.byte? (addr + .ofNat i) = some bytes[i]

theorem HasBytes.eq {m : Memory} {addr : UInt32} {xs ys : List UInt8} (hxs : m.HasBytes addr xs)
    (hys : m.HasBytes addr ys) (hlength : xs.length = ys.length) :
  xs = ys
  := by
  apply List.ext_getElem hlength
  intro i hi hi'
  rw [← Option.some_inj, ← hxs i hi, hys i hi']

/-- What is read in one piece is at its addresses byte by byte. -/
theorem Apart.hasBytes_of_read? {m : Memory} (h : m.Apart) {addr : UInt32} {length : Nat}
    {bytes : List UInt8} (hread : m.read? addr length = some bytes)
    (hfits : addr.toNat + length < 2 ^ 32) :
  m.HasBytes addr bytes
  := by
  intro i hi
  have hlength := length_of_read? hread
  rw [byte?, h.read?_slice hread (n := i) (k := 1) (by omega) (by omega), Option.bind_some,
    List.head?_take, if_neg Nat.one_ne_zero, List.head?_drop, List.getElem?_eq_getElem hi]

/-- Bytes that are written are at their addresses afterwards. -/
theorem Apart.hasBytes_write {m : Memory} (h : m.Apart) {addr : UInt32} {added : List UInt8}
    (hholds : m.holds addr added.length = true) (hfits : addr.toNat + added.length < 2 ^ 32) :
  (m.write addr added).HasBytes addr added
  := (h.congr (m.extents_write addr added)).hasBytes_of_read? (read?_write_self hholds) hfits

/-- A byte that is not written over is as before. -/
theorem byte?_write_of_apart (m : Memory) {a addr : UInt32} {added : List UInt8}
    (h : a.toNat < addr.toNat ∨ addr.toNat + added.length ≤ a.toNat) :
  (m.write addr added).byte? a = m.byte? a
  := by
  have hapart : a.toNat + 1 ≤ addr.toNat ∨ addr.toNat + added.length ≤ a.toNat := h
  rw [byte?, byte?, m.read?_write_of_apart hapart]

end Memory

end SandboxMonitor
