import Mathlib.Tactic.Use
import SandboxMonitor.Machine.Basic

/-!
# Reading past a write

A write changes no byte outside its own addresses, so what is read there is as before.  The
size of an instruction is told by its first byte alone, so a write that does not reach that
byte leaves the size as it was.
-/

namespace SandboxMonitor

/-! ### Arrays and segments -/

theorem getElem?_overwrite_of_outside (bytes : Array UInt8) {index i : Nat}
    (added : List UInt8) (h : i < index ∨ index + added.length ≤ i) :
  (overwrite bytes index added)[i]? = bytes[i]?
  := by
  induction added generalizing bytes index with
  | nil => rfl
  | cons b rest ih =>
    rw [List.length_cons] at h
    rw [overwrite, ih _ (by omega), Array.getElem?_setIfInBounds_ne (by omega)]

namespace Segment

/-- A byte that is read past a write to the segment is as before. -/
theorem getElem?_read_write (s : Segment) {a addr : UInt32} {added : List UInt8}
    (length : Nat) {i : Nat} (ha : s.base ≤ a) (haddr : s.base ≤ addr)
    (h : addr.toNat + i < a.toNat ∨ a.toNat + added.length ≤ addr.toNat + i) :
  ((s.write a added).read addr length)[i]? = (s.read addr length)[i]?
  := by
  rw [UInt32.le_iff_toNat_le] at ha haddr
  have houtside : s.offset addr + i < s.offset a
      ∨ s.offset a + added.length ≤ s.offset addr + i := by
    rw [offset, offset]
    omega
  rw [read, read, Array.getElem?_toList, Array.getElem?_toList, Array.getElem?_extract,
    Array.getElem?_extract, write, size_overwrite]
  change (if _ then (overwrite s.bytes (s.offset a) added)[s.offset addr + i]? else none) = _
  rw [getElem?_overwrite_of_outside _ _ houtside]
  rfl

end Segment

/-! ### Memories -/

namespace Memory

/-- A write takes no address away and gives none. -/
theorem isSome_read?_write (m : Memory) (a addr : UInt32) (added : List UInt8)
    (length : Nat) :
  ((m.write a added).read? addr length).isSome = (m.read? addr length).isSome
  := by
  obtain ⟨segments⟩ := m
  rw [read?, read?, Option.isSome_map, Option.isSome_map, write]
  induction segments with
  | nil => rfl
  | cons s rest ih =>
    rw [writeFirst]
    split
    · rw [List.find?_cons, List.find?_cons, Segment.holds_write]
      cases s.holds addr length <;> rfl
    · rw [List.find?_cons, List.find?_cons]
      cases s.holds addr length with
      | true => rfl
      | false => apply ih

/-- A byte that is read past a write is as before. -/
theorem getElem?_read?_write (m : Memory) {a addr : UInt32} {added : List UInt8}
    (length : Nat) {i : Nat}
    (h : addr.toNat + i < a.toNat ∨ a.toNat + added.length ≤ addr.toNat + i) :
  ((m.write a added).read? addr length).map (fun bytes => bytes[i]?)
    = (m.read? addr length).map fun bytes => bytes[i]?
  := by
  obtain ⟨segments⟩ := m
  rw [read?, read?, Option.map_map, Option.map_map, write]
  induction segments with
  | nil => rfl
  | cons s rest ih =>
    rw [writeFirst]
    split
    · rename_i hwritten
      rw [List.find?_cons, List.find?_cons, Segment.holds_write]
      cases hread : s.holds addr length with
      | true =>
        rw [Segment.holds, Bool.and_eq_true, decide_eq_true_eq] at hwritten hread
        apply congrArg some
        apply s.getElem?_read_write length hwritten.1 hread.1 h
      | false => rfl
    · rw [List.find?_cons, List.find?_cons]
      cases s.holds addr length with
      | true => rfl
      | false => apply ih

/-! ### Instructions -/

/-- The halfword at an address. -/
def halfword? (m : Memory) (addr : UInt32) : Option UInt16 :=
  (m.read? addr 2).map fun bytes => .ofNat (littleEndian bytes)

/-- The size of the instruction at an address. -/
def instructionLength? (m : Memory) (addr : UInt32) : Option UInt32 :=
  (m.halfword? addr).map instructionLength

end Memory

/-- The first byte of an instruction tells its size. -/
theorem instructionLength_littleEndian (bytes : List UInt8) :
  instructionLength (.ofNat (littleEndian bytes))
    = if bytes[0]?.getD 0 &&& 3 = 3 then 4 else 2
  := by
  cases bytes with
  | nil => rfl
  | cons b rest =>
    have hmod : ∀ n : Nat, n &&& UInt8.toNat 3 = n % 4 := fun n =>
      Nat.and_two_pow_sub_one_eq_mod n 2
    have hlow : UInt16.ofNat (littleEndian (b :: rest)) &&& 3 = 3 ↔ b &&& 3 = 3 := by
      rw [← UInt16.toNat_inj, ← UInt8.toNat_inj, UInt16.toNat_and, UInt8.toNat_and, hmod,
        UInt16.toNat_ofNat', littleEndian]
      change (b.toNat + 256 * littleEndian rest) % 65536 &&& UInt8.toNat 3 = 3 ↔ _ = 3
      rw [hmod]
      omega
    rw [instructionLength]
    simp only [hlow, List.getElem?_cons_zero, Option.getD_some]

namespace Memory

theorem isSome_instructionLength?_write (m : Memory) (a addr : UInt32) (added : List UInt8) :
  ((m.write a added).instructionLength? addr).isSome = (m.instructionLength? addr).isSome
  := by
  rw [instructionLength?, instructionLength?, halfword?, halfword?, Option.isSome_map,
    Option.isSome_map, Option.isSome_map, Option.isSome_map]
  apply isSome_read?_write

/-- A write that does not reach the first byte of an instruction keeps its size. -/
theorem instructionLength?_write (m : Memory) {a addr : UInt32} {added : List UInt8}
    (h : addr.toNat < a.toNat ∨ a.toNat + added.length ≤ addr.toNat) :
  (m.write a added).instructionLength? addr = m.instructionLength? addr
  := by
  have hfirst := m.getElem?_read?_write (i := 0) 2 h
  have hlength : ∀ m : Memory, m.instructionLength? addr
      = ((m.read? addr 2).map fun bytes => bytes[0]?).map fun first =>
        if first.getD 0 &&& 3 = 3 then 4 else 2 := by
    intro m
    rw [instructionLength?, halfword?, Option.map_map, Option.map_map]
    congr 1
    funext bytes
    apply instructionLength_littleEndian
  rw [hlength, hlength, hfirst]

end Memory

/-! ### Accesses that memory allows -/

namespace Machine

open SandboxMonitor.Action

variable {B : Type} {m : Machine B}

theorem run_peek (filter : LogFilter) {addr : UInt32} {length : Nat} {bytes : List UInt8}
    (h : m.memory.read? addr length = some bytes) :
  (peek addr length).run filter m = ⟨.ok bytes, m, []⟩
  := by
  rw [peek, run_bind]
  simp only [run_gets, h, run_pure, List.nil_append]

theorem run_poke (filter : LogFilter) {addr : UInt32} {bytes : List UInt8}
    (h : m.memory.holds addr bytes.length = true) :
  (poke addr bytes).run filter m
    = ⟨.ok (), { m with memory := m.memory.write addr bytes }, []⟩
  := if_pos h

theorem run_skipInstruction (filter : LogFilter) {length : UInt32}
    (h : m.memory.instructionLength? m.mepc = some length) :
  skipInstruction.run filter m = ⟨.ok (), { m with mepc := m.mepc + length }, []⟩
  := by
  obtain ⟨halfword, hhalfword, rfl⟩ := Option.map_eq_some_iff.mp h
  obtain ⟨bytes, hread, rfl⟩ := Option.map_eq_some_iff.mp hhalfword
  rw [skipInstruction, run_bind]
  simp only [run_gets, fetchHalfword, run_bind, run_peek filter hread, run_pure, run_modify,
    List.nil_append]

end Machine

end SandboxMonitor
