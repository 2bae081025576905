import Mathlib.Data.List.Forall2
import SandboxMonitor.Proofs.Machine.Words

/-!
# Memories that agree on some addresses

Two memories agree on a set of addresses when they have the same segments and the same bytes
at those addresses.  Then the same accesses are allowed in both, bytes of the set are read the
same, and a write keeps the agreement (`Memory.AgreeOn.write`).  A write that stays out of the
set agrees with what was there before (`Memory.agreeOn_write`).
-/

namespace SandboxMonitor

/-- What is written over arrays that agree at an index agrees there. -/
theorem getElem?_overwrite_congr {bytes bytes' : Array UInt8} (index : Nat) (added : List UInt8)
    {i : Nat} (hsize : bytes.size = bytes'.size) (h : bytes[i]? = bytes'[i]?) :
  (overwrite bytes index added)[i]? = (overwrite bytes' index added)[i]?
  := by
  induction added generalizing bytes bytes' index with
  | nil => apply h
  | cons b rest ih =>
    rw [overwrite, overwrite]
    apply ih
    · rw [Array.size_setIfInBounds, Array.size_setIfInBounds, hsize]
    · rw [Array.getElem?_setIfInBounds, Array.getElem?_setIfInBounds, hsize, h]

namespace Segment

/-- The segments have the same place, and the same bytes at the addresses of a set. -/
structure AgreeOn (A : Nat → Prop) (s t : Segment) : Prop where
  base : t.base = s.base
  size : t.bytes.size = s.bytes.size
  bytes : ∀ i, A (s.base.toNat + i) → t.bytes[i]? = s.bytes[i]?

namespace AgreeOn

variable {A : Nat → Prop} {s t u : Segment}

protected theorem refl (A : Nat → Prop) (s : Segment) :
  s.AgreeOn A s
  := ⟨rfl, rfl, fun _ _ => rfl⟩

protected theorem trans (h : s.AgreeOn A t) (h' : t.AgreeOn A u) :
  s.AgreeOn A u
  := by
  constructor
  · rw [h'.base, h.base]
  · rw [h'.size, h.size]
  · intro i hi
    rw [h'.bytes i (by rw [h.base]; apply hi), h.bytes i hi]

theorem holds_eq (h : s.AgreeOn A t) (addr : UInt32) (length : Nat) :
  t.holds addr length = s.holds addr length
  := by
  rw [holds, holds, h.base, h.size]

theorem read_eq (h : s.AgreeOn A t) {addr : UInt32} {length : Nat} (hbase : s.base ≤ addr)
    (hA : ∀ a, addr.toNat ≤ a → a < addr.toNat + length → A a) :
  t.read addr length = s.read addr length
  := by
  rw [UInt32.le_iff_toNat_le] at hbase
  rw [read, read, offset, offset, h.base]
  apply congrArg Array.toList
  apply Array.ext_getElem?
  intro i
  rw [Array.getElem?_extract, Array.getElem?_extract, h.size]
  split
  · apply h.bytes
    apply hA
    · omega
    · omega
  · rfl

theorem write (h : s.AgreeOn A t) (addr : UInt32) (added : List UInt8) :
  (s.write addr added).AgreeOn A (t.write addr added)
  := by
  constructor
  · apply h.base
  · rw [Segment.write, Segment.write, size_overwrite, size_overwrite, h.size]
  · intro i hi
    rw [Segment.write, Segment.write, offset, offset, h.base]
    apply getElem?_overwrite_congr _ _ h.size (h.bytes i hi)

end AgreeOn

/-- A write to a segment agrees with it where it does not write. -/
theorem agreeOn_write (s : Segment) {A : Nat → Prop} {addr : UInt32} {added : List UInt8}
    (hbase : s.base ≤ addr)
    (hA : ∀ a, addr.toNat ≤ a → a < addr.toNat + added.length → ¬ A a) :
  s.AgreeOn A (s.write addr added)
  := by
  rw [UInt32.le_iff_toNat_le] at hbase
  constructor
  · rfl
  · apply size_overwrite
  · intro i hi
    apply getElem?_overwrite_of_outside
    by_contra hinside
    apply hA (s.base.toNat + i) _ _ hi
    · rw [offset] at hinside
      omega
    · rw [offset] at hinside
      omega

end Segment

namespace Memory

/-- The memories have the same segments, with the same bytes at the addresses of a set. -/
def AgreeOn (A : Nat → Prop) (m n : Memory) : Prop :=
  List.Forall₂ (Segment.AgreeOn A) m.segments n.segments

variable {A : Nat → Prop} {m n : Memory}

protected theorem AgreeOn.refl (A : Nat → Prop) (m : Memory) :
  m.AgreeOn A m
  := List.forall₂_same.mpr fun s _ => .refl A s

protected theorem AgreeOn.trans {o : Memory} (h : m.AgreeOn A n) (h' : n.AgreeOn A o) :
  m.AgreeOn A o
  := by
  obtain ⟨segments⟩ := m
  obtain ⟨segments'⟩ := n
  obtain ⟨segments''⟩ := o
  change List.Forall₂ _ segments segments' at h
  change List.Forall₂ _ segments' segments'' at h'
  change List.Forall₂ _ segments segments''
  induction h generalizing segments'' with
  | nil => apply h'
  | cons hs _ ih =>
    cases h' with
    | cons ht hrest => apply List.Forall₂.cons (hs.trans ht) (ih _ hrest)

/-- The same accesses are allowed. -/
theorem AgreeOn.holds_eq (h : m.AgreeOn A n) (addr : UInt32) (length : Nat) :
  n.holds addr length = m.holds addr length
  := by
  obtain ⟨segments⟩ := m
  obtain ⟨segments'⟩ := n
  change List.Forall₂ _ segments segments' at h
  rw [holds, holds]
  induction h with
  | nil => rfl
  | cons hs _ ih => rw [List.any_cons, List.any_cons, hs.holds_eq, ih]

/-- Bytes of the set are read the same. -/
theorem AgreeOn.read?_eq (h : m.AgreeOn A n) {addr : UInt32} {length : Nat}
    (hA : ∀ a, addr.toNat ≤ a → a < addr.toNat + length → A a) :
  n.read? addr length = m.read? addr length
  := by
  obtain ⟨segments⟩ := m
  obtain ⟨segments'⟩ := n
  change List.Forall₂ _ segments segments' at h
  rw [read?, read?]
  induction h with
  | nil => rfl
  | @cons s t _ _ hs _ ih =>
    rw [List.find?_cons, List.find?_cons, hs.holds_eq]
    cases hholds : s.holds addr length with
    | true =>
      rw [Segment.holds, Bool.and_eq_true, decide_eq_true_eq] at hholds
      apply congrArg some
      apply hs.read_eq hholds.1 hA
    | false => apply ih

/-- Memories that agree still do after the same write. -/
theorem AgreeOn.write (h : m.AgreeOn A n) (addr : UInt32) (added : List UInt8) :
  (m.write addr added).AgreeOn A (n.write addr added)
  := by
  obtain ⟨segments⟩ := m
  obtain ⟨segments'⟩ := n
  change List.Forall₂ _ segments segments' at h
  rw [AgreeOn, Memory.write, Memory.write]
  induction h with
  | nil => apply List.Forall₂.nil
  | cons hs hrest ih =>
    rw [writeFirst, writeFirst, hs.holds_eq]
    split
    · apply List.Forall₂.cons (hs.write addr added) hrest
    · apply List.Forall₂.cons hs ih

/-- A write changes no byte out of its range. -/
theorem agreeOn_write (m : Memory) {addr : UInt32} {added : List UInt8}
    (hA : ∀ a, addr.toNat ≤ a → a < addr.toNat + added.length → ¬ A a) :
  m.AgreeOn A (m.write addr added)
  := by
  obtain ⟨segments⟩ := m
  rw [AgreeOn, Memory.write]
  induction segments with
  | nil => apply List.Forall₂.nil
  | cons s rest ih =>
    rw [writeFirst]
    split
    · rename_i hwritten
      rw [Segment.holds, Bool.and_eq_true, decide_eq_true_eq] at hwritten
      apply List.Forall₂.cons (s.agreeOn_write hwritten.1 hA)
      apply AgreeOn.refl A ⟨rest⟩
    · apply List.Forall₂.cons (Segment.AgreeOn.refl A s) ih

end Memory

end SandboxMonitor
