import SandboxMonitor.Proofs.Protection.Covering

/-!
# The least block around a window

Widening ends: a block of `2 ^ 33` bytes reaches the end of every window, and no 64-bit word is
outgrown before.  A block that is passed over does not reach the end, so the one that is answered
is the least that does.  Hence `Region.covering` fails for want of a block only where there is
none, and else answers the least of all (`Region.covering_least`).
-/

namespace SandboxMonitor

/-- The `n` bytes at `b` are a block of the address space that holds the window of `length` bytes
at `base`. -/
structure Covers (b n base length : Nat) : Prop where
  isBlock : IsBlock b n
  low : b ≤ base
  high : base + length ≤ b + n

/-! ### The first size -/

theorem ceilLog2_le {n k : Nat} (h : n ≤ 2 ^ k) :
  ceilLog2 n ≤ k
  := by
  rw [ceilLog2]
  split
  · apply Nat.zero_le
  · have hpos : n - 1 ≠ 0 := by omega
    apply (Nat.log2_lt hpos).mpr
    omega

/-- A block that is long enough for a window is not below the first size to try. -/
theorem firstExponent_le {length k : Nat} (hk : 3 ≤ k) (h : length ≤ 2 ^ k) :
  firstExponent length ≤ k
  := Nat.max_le.mpr ⟨hk, ceilLog2_le h⟩

/-! ### Widening ends -/

/-- Blocks of at most `2 ^ 33` bytes end at a 64-bit address. -/
theorem blockStop_lt_size {base k : Nat} (hbase : base < 2 ^ 32) (hk : k ≤ 33) :
  blockStop base k < UInt64.size
  := by
  have hpow : 2 ^ k ≤ 2 ^ 33 := Nat.pow_le_pow_right (by decide) hk
  have hlow : base / 2 ^ k * 2 ^ k ≤ base := Nat.div_mul_le_self base (2 ^ k)
  rw [blockStop_eq, UInt64.size]
  omega

/-- Widening ends at a block of at most `2 ^ 33` bytes. -/
theorem exists_widen {base stop room k : Nat} (hbase : base < 2 ^ 32) (hstop : stop ≤ 2 ^ 33)
    (hk : k ≤ 33) (hroom : 34 ≤ k + room) :
  ∃ j ≤ 33, widen base stop k room = some j
  := by
  induction room generalizing k with
  | zero => omega
  | succ room ih =>
    rw [widen, if_neg (Nat.not_le.mpr (blockStop_lt_size hbase hk))]
    split
    · rename_i hshort
      apply ih
      · -- The largest of these blocks is not too short.
        have hlast : k ≠ 33 := by
          rintro rfl
          rw [blockStop_eq] at hshort
          omega
        omega
      · omega
    · use k

/-- A block that was passed over does not reach the end of the window. -/
theorem blockStop_lt_of_widen {base stop room k i j : Nat} (h : widen base stop k room = some j)
    (hk : k ≤ i) (hj : i < j) :
  blockStop base i < stop
  := by
  induction room generalizing k with
  | zero => cases h
  | succ room ih =>
    rw [widen] at h
    split at h
    · cases h
    split at h
    · rename_i hshort
      rcases Nat.eq_or_lt_of_le hk with rfl | hlt
      · apply hshort
      · apply ih h hlt
    · cases h
      omega

/-! ### The cover of a window -/

/-- A block that holds a window is the one of its size around the base. -/
theorem Covers.exists_exponent {b n base length : Nat} (h : Covers b n base length)
    (hlength : 0 < length) :
  ∃ k, 3 ≤ k ∧ k ≤ 31 ∧ n = 2 ^ k ∧ length ≤ 2 ^ k ∧ base + length ≤ blockStop base k
  := by
  obtain ⟨⟨k, hlo, hhi, hn, hb⟩, hlow, hhigh⟩ := h
  rw [Nat.one_shiftLeft] at hn hb
  subst hn
  obtain ⟨q, rfl⟩ := Nat.dvd_of_mod_eq_zero hb
  have hbase : base / 2 ^ k = q := by
    apply Nat.div_eq_of_lt_le
    · rw [Nat.mul_comm]
      apply hlow
    · rw [Nat.add_mul, Nat.mul_comm q]
      omega
  use k, hlo, hhi, rfl, by omega
  rw [blockStop_eq, hbase, Nat.mul_comm]
  apply hhigh

/-- The block around a window is one if its exponent is that of a block. -/
theorem covers_coverExponent {base length : Nat} (h : coverExponent base length ≤ 31) :
  Covers (base / 2 ^ coverExponent base length * 2 ^ coverExponent base length)
    (2 ^ coverExponent base length) base length
  := by
  have hreaches := le_blockStop_of_widen (widen_of_coverExponent_le h)
  rw [blockStop_eq] at hreaches
  constructor
  · use coverExponent base length, three_le_coverExponent base length, h
    rw [Nat.one_shiftLeft]
    use rfl
    apply Nat.mul_mod_left
  · apply Nat.div_mul_le_self
  · apply hreaches

section Window

variable {base length : UInt32}

/-- The sizes that are tried for a window of memory and the ends of their blocks are 64-bit words,
and one of the blocks reaches the end of the window. -/
theorem widen_eq_some (base length : UInt32) :
  coverExponent base.toNat length.toNat ≤ 33
    ∧ widen base.toNat (base.toNat + length.toNat) (firstExponent length.toNat)
        (64 - firstExponent length.toNat) = some (coverExponent base.toNat length.toNat)
  := by
  have hbase := base.toNat_lt
  have hlength := length.toNat_lt
  have hfirst : firstExponent length.toNat ≤ 32 :=
    firstExponent_le (by decide) (Nat.le_of_lt hlength)
  obtain ⟨k, hk, hwiden⟩ : ∃ k ≤ 33, widen base.toNat (base.toNat + length.toNat)
      (firstExponent length.toNat) (64 - firstExponent length.toNat) = some k := by
    apply exists_widen hbase <;> omega
  have hcover : coverExponent base.toNat length.toNat = k := by rw [coverExponent, hwiden]; rfl
  rw [hcover]
  use hk

/-- The exponent of a window is no larger than that of a block which holds it. -/
theorem Covers.coverExponent_le {b n : Nat} (h : Covers b n base.toNat length.toNat)
    (hlength : length ≠ 0) :
  coverExponent base.toNat length.toNat ≤ 31
    ∧ 2 ^ coverExponent base.toNat length.toNat ≤ n
  := by
  have hpos : 0 < length.toNat := by
    apply Nat.pos_of_ne_zero
    intro hzero
    apply hlength (UInt32.toNat_inj.mp hzero)
  obtain ⟨k, hlo, hhi, rfl, hfits, hreaches⟩ := h.exists_exponent hpos
  have hle : coverExponent base.toNat length.toNat ≤ k := by
    apply Nat.le_of_not_lt
    intro hpassed
    apply Nat.not_lt.mpr hreaches
    apply blockStop_lt_of_widen (widen_eq_some base length).2 (firstExponent_le hlo hfits) hpassed
  use Nat.le_trans hle hhi
  apply Nat.pow_le_pow_right (by decide) hle

/-- The exponent of a window is that of a block just when a block holds the window. -/
theorem coverExponent_le_iff (hlength : length ≠ 0) :
  coverExponent base.toNat length.toNat ≤ 31 ↔ ∃ b n, Covers b n base.toNat length.toNat
  := by
  constructor
  · intro h
    exact ⟨_, _, covers_coverExponent h⟩
  · rintro ⟨b, n, hcovers⟩
    apply (hcovers.coverExponent_le hlength).1

/-- Why a window has no cover.  Of several reasons the first is given. -/
inductive Uncovered (base length : UInt32) (permissions : Permissions) : EncodeError → Prop where
  | zeroLength (hlength : length = 0) : Uncovered base length permissions .zeroLength
  | writeWithoutRead (hlength : length ≠ 0) (hwrite : permissions.write = true)
      (hread : permissions.read = false) : Uncovered base length permissions .writeWithoutRead
  | exceedsAddressSpace (hlength : length ≠ 0)
      (hpermissions : ¬ (permissions.write = true ∧ permissions.read = false))
      (hnone : ¬ ∃ b n, Covers b n base.toNat length.toNat) :
      Uncovered base length permissions (.exceedsAddressSpace base length)

variable {permissions : Permissions} {locked : Bool}

theorem Permissions.isReserved_iff :
  permissions.isReserved = true ↔ permissions.write = true ∧ permissions.read = false
  := by
  rw [isReserved, Bool.and_eq_true, Bool.not_eq_true']

namespace Region

theorem covering_eq_error_iff {e : EncodeError} :
  covering base length permissions locked = .error e ↔ Uncovered base length permissions e
  := by
  unfold covering
  constructor
  · intro h
    split at h
    · rename_i hlength
      cases h
      apply Uncovered.zeroLength hlength
    rename_i hlength
    split at h
    · rename_i hreserved
      cases h
      obtain ⟨hwrite, hread⟩ := Permissions.isReserved_iff.mp hreserved
      apply Uncovered.writeWithoutRead hlength hwrite hread
    rename_i hreserved
    dsimp only at h
    split at h
    · cases h
    · rename_i hlarge
      cases h
      apply Uncovered.exceedsAddressSpace hlength
      · rw [← Permissions.isReserved_iff]
        apply hreserved
      · rw [← coverExponent_le_iff hlength]
        apply hlarge
  · intro h
    cases h with
    | zeroLength hlength => rw [if_pos hlength]
    | writeWithoutRead hlength hwrite hread =>
      rw [if_neg hlength, if_pos (Permissions.isReserved_iff.mpr ⟨hwrite, hread⟩)]
    | exceedsAddressSpace hlength hpermissions hnone =>
      rw [← Permissions.isReserved_iff] at hpermissions
      rw [← coverExponent_le_iff hlength] at hnone
      rw [if_neg hlength, if_neg hpermissions]
      dsimp only
      rw [dif_neg hnone]

theorem covers_of_covering {r : Region}
    (h : covering base length permissions locked = .ok r) :
  Covers r.base.toNat r.length.toNat base.toNat length.toNat
  := by
  obtain ⟨hlow, hhigh⟩ := inside_of_covering (w := ⟨base, length⟩) h
  use r.isBlock, UInt32.le_iff_toNat_le.mp hlow, hhigh

/-- No block that holds a window is shorter than the cover of the window. -/
theorem length_le_of_covers {r : Region} (h : covering base length permissions locked = .ok r)
    {b n : Nat} (hcovers : Covers b n base.toNat length.toNat) :
  r.length.toNat ≤ n
  := by
  have hlength : length ≠ 0 := by
    intro hzero
    rw [covering_eq_error_iff.mpr (.zeroLength hzero)] at h
    cases h
  obtain ⟨k, -, rfl, -, hsize, -⟩ := fields_of_covering h
  rw [hsize, Nat.one_shiftLeft]
  apply (hcovers.coverExponent_le hlength).2

/-- Covering a window fails for its first fault, which is that it is empty, that the rights are
reserved, or that no block holds it.  Otherwise it answers the least of the blocks that hold it,
inside the address space and with the rights asked for.  The search for it always ends, and no
64-bit word is outgrown on the way. -/
theorem covering_least (base length : UInt32) (permissions : Permissions) (locked : Bool) :
  (∃ k ≤ 33, widen base.toNat (base.toNat + length.toNat) (firstExponent length.toNat)
      (64 - firstExponent length.toNat) = some k)
    ∧ (∀ e, covering base length permissions locked = .error e
      ↔ Uncovered base length permissions e)
    ∧ ∀ r, covering base length permissions locked = .ok r →
      Covers r.base.toNat r.length.toNat base.toNat length.toNat
        ∧ r.stop ≤ 2 ^ 32
        ∧ (∀ b n, Covers b n base.toNat length.toNat → r.length.toNat ≤ n)
        ∧ r.permissions = permissions ∧ r.locked = locked
  := by
  and_intros
  · use coverExponent base.toNat length.toNat
    apply widen_eq_some
  · intro e
    apply covering_eq_error_iff
  · intro r h
    obtain ⟨_, -, -, -, -, -, hpermissions, hlocked⟩ := fields_of_covering h
    use covers_of_covering h, r.stop_le, fun _ _ => length_le_of_covers h, hpermissions, hlocked

/-- Eight bytes across a boundary of eight take a block of sixteen, and no block has the last
sixteen bytes of the address space with sixteen more. -/
theorem covering_least_straddling :
  (∃ r, covering 0x1004 8 .readWrite false = .ok r ∧ r.length = 16 ∧ r.base = 0x1000
      ∧ ∀ b n, Covers b n 0x1004 8 → 16 ≤ n)
    ∧ ¬ ∃ b n, Covers b n 0xFFFFFFF0 0x20
  := by
  constructor
  · obtain ⟨r, hr, hlength, hbase⟩ : ∃ r, covering 0x1004 8 .readWrite false = .ok r
        ∧ r.length = 16 ∧ r.base = 0x1000 := ⟨_, rfl, rfl, rfl⟩
    obtain ⟨-, -, hleast⟩ := covering_least 0x1004 8 .readWrite false
    obtain ⟨-, -, hshortest, -⟩ := hleast r hr
    rw [hlength] at hshortest
    use r, hr, hlength, hbase, hshortest
  · obtain ⟨-, hfails, -⟩ := covering_least 0xFFFFFFF0 0x20 .readWrite false
    cases (hfails (.exceedsAddressSpace 0xFFFFFFF0 0x20)).mp rfl with
    | exceedsAddressSpace _ _ hnone => apply hnone

end Region

end Window

end SandboxMonitor
