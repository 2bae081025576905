import Mathlib.Tactic.Ring
import Mathlib.Tactic.Use
import SandboxMonitor.Protection.Access
import SandboxMonitor.Protection.Install
import SandboxMonitor.Proofs.Protection.Covering

/-!
# Entries that grant regions

An entry that grants a region matches exactly the addresses of the region, so a list of
such entries with every other entry off grants what the first region with the byte grants
(`ProtectionBank.GrantsExactly.userMay_iff`).
-/

namespace SandboxMonitor

theorem Entry.not_matches_of_off {e : Entry} (h : e.mode = .off) (previous : UInt32) (a : Nat) :
  ¬ e.Matches previous a
  := by
  simp [Matches, h]

/-! ### Addresses of whole words -/

theorem toNat_shiftRight_two (x : UInt32) :
  (x >>> 2).toNat = x.toNat / 4
  := by
  rw [UInt32.toNat_shiftRight, Nat.shiftRight_eq_div_pow]
  rfl

theorem mod_four_eq_zero_iff (x : UInt32) :
  x % 4 = 0 ↔ x.toNat % 4 = 0
  := by
  rw [← UInt32.toNat_inj, UInt32.toNat_mod]
  rfl

/-! ### Entries for regions -/

theorem trailingOnes_eq (q : Nat) {j : Nat} (h : j < 32) :
  trailingOnes 32 (2 ^ j * (2 * q) + (2 ^ j - 1)) = j
  := by
  have hlow : 2 ^ j - 1 < 2 ^ j := Nat.sub_lt (Nat.two_pow_pos j) (by decide)
  unfold trailingOnes
  rw [List.findIdx_eq (by simpa using h)]
  constructor
  · rw [List.getElem_range, Nat.testBit_two_pow_mul_add _ hlow]
    simp
  · intro i hi
    rw [List.getElem_range, Nat.testBit_two_pow_mul_add _ hlow]
    simp [hi]

/-- The address register of a region of `2 ^ (j + 3)` bytes: the number of the block, a zero
and `j` ones. -/
theorem Region.blockAddr_eq (r : Region) :
  ∃ j q, j < 29 ∧ r.length.toNat = 2 ^ (j + 3) ∧ r.base.toNat = 2 ^ (j + 3) * q
    ∧ r.blockAddr.toNat = 2 ^ j * (2 * q) + (2 ^ j - 1)
  := by
  obtain ⟨k, hlo, hhi, hlength, hbase⟩ := r.isBlock
  rw [Nat.one_shiftLeft] at hlength hbase
  obtain ⟨j, rfl⟩ : ∃ j, k = j + 3 := ⟨k - 3, by omega⟩
  obtain ⟨q, hq⟩ := Nat.dvd_of_mod_eq_zero hbase
  have hpow : 2 ^ (j + 3) = 8 * 2 ^ j := by rw [Nat.pow_add, Nat.mul_comm]
  have hlow : 2 ^ j - 1 < 2 ^ j := Nat.sub_lt (Nat.two_pow_pos j) (by decide)
  have hshift : (r.length >>> 3).toNat = 2 ^ j := by
    rw [UInt32.toNat_shiftRight, hlength, hpow]
    simp [Nat.shiftRight_eq_div_pow]
  have hones : (r.length >>> 3 - 1).toNat = 2 ^ j - 1 := by
    rw [UInt32.toNat_sub_of_le, hshift]
    · rfl
    · rw [UInt32.le_iff_toNat_le, hshift]
      apply Nat.one_le_two_pow
  have hnumber : (r.base >>> 2).toNat = 2 ^ j * (2 * q) := by
    rw [UInt32.toNat_shiftRight, hq, hpow]
    rw [show UInt32.toNat 2 % 32 = 2 from rfl, Nat.shiftRight_eq_div_pow]
    apply Nat.div_eq_of_eq_mul_left (by decide)
    ring
  use j, q, by omega, hlength, hq
  rw [blockAddr, UInt32.toNat_or, hones, hnumber, Nat.two_pow_add_eq_or_of_lt hlow]

/-! ### Reading the fields of an entry back -/

theorem Entry.toNat_cfg_ofFields (mode : AddressMode) (permissions : Permissions)
    (locked : Bool) (addr : UInt32) :
  (ofFields mode permissions locked addr).cfg.toNat
    = permissions.bits + 8 * mode.code + 128 * locked.toNat
  := by
  have hpermissions := permissions.bits_lt
  have hmode : mode.code ≤ 3 := by cases mode <;> decide
  have hlocked := locked.toNat_le
  rw [ofFields, UInt8.toNat_ofNat', Nat.mod_eq_of_lt (by omega)]

@[simp]
theorem Entry.mode_ofFields (mode : AddressMode) (permissions : Permissions) (locked : Bool)
    (addr : UInt32) :
  (ofFields mode permissions locked addr).mode = mode
  := by
  have hpermissions := permissions.bits_lt
  rw [Entry.mode, toNat_cfg_ofFields,
    show (permissions.bits + 8 * mode.code + 128 * locked.toNat) / 8
      = mode.code + 4 * (4 * locked.toNat) by omega]
  rw [AddressMode.ofCode, Nat.add_mul_mod_self_left]
  cases mode <;> rfl

@[simp]
theorem Entry.permissions_ofFields (mode : AddressMode) (permissions : Permissions)
    (locked : Bool) (addr : UInt32) :
  (ofFields mode permissions locked addr).permissions = permissions
  := by
  have hbits : ∀ i < 3, (permissions.bits + 8 * mode.code + 128 * locked.toNat).testBit i
      = permissions.bits.testBit i := by
    intro i hi
    have hsplit : permissions.bits + 8 * mode.code + 128 * locked.toNat
        = 2 ^ 3 * (mode.code + 16 * locked.toNat) + permissions.bits := by omega
    rw [hsplit, Nat.testBit_two_pow_mul_add _ permissions.bits_lt, if_pos hi]
  rw [Entry.permissions, toNat_cfg_ofFields, Permissions.ofBits, hbits 0 (by decide),
    hbits 1 (by decide), hbits 2 (by decide)]
  apply Permissions.ofBits_bits

@[simp]
theorem Entry.isLocked_ofFields (mode : AddressMode) (permissions : Permissions)
    (locked : Bool) (addr : UInt32) :
  (ofFields mode permissions locked addr).isLocked = locked
  := by
  have hpermissions := permissions.bits_lt
  have hmode : mode.code ≤ 3 := by cases mode <;> decide
  rw [isLocked, toNat_cfg_ofFields, Nat.testBit_eq_decide_div_mod_eq,
    show (permissions.bits + 8 * mode.code + 128 * locked.toNat) / 2 ^ 7 = locked.toNat by omega]
  cases locked <;> rfl

/-- A block entry matches the addresses of its block, which its address register gives as the
number of the block, a zero and the ones of the size. -/
theorem Entry.matches_block_iff {e : Entry} {j q : Nat} (hmode : e.mode = .block) (hj : j < 32)
    (haddr : e.addr.toNat = 2 ^ j * (2 * q) + (2 ^ j - 1)) (previous : UInt32) (a : Nat) :
  e.Matches previous a ↔ 2 ^ (j + 3) * q ≤ a ∧ a < 2 ^ (j + 3) * q + 2 ^ (j + 3)
  := by
  have hpow : 2 ^ (j + 3) = 8 * 2 ^ j := by rw [Nat.pow_add, Nat.mul_comm]
  have hpos := Nat.two_pow_pos j
  -- The zero above the ones keeps the register below the next block.
  have hnumber : 4 * e.addr.toNat / 2 ^ (j + 3) = q := by
    have hproduct : 4 * (2 ^ j * (2 * q)) = q * (8 * 2 ^ j) := by ring
    rw [haddr, hpow]
    apply Nat.div_eq_of_lt_le
    · omega
    · rw [Nat.add_mul, Nat.one_mul]
      omega
  have hones : trailingOnes 32 e.addr.toNat = j := by
    rw [haddr]
    apply trailingOnes_eq q hj
  rw [Matches, hmode]
  dsimp only
  rw [hones, Nat.shiftRight_eq_div_pow, Nat.shiftRight_eq_div_pow, hnumber,
    Nat.div_eq_iff (Nat.two_pow_pos _), Nat.mul_comm q]
  omega

/-- The entry of a region matches the addresses of the region. -/
theorem Region.matches_entry_iff (r : Region) (previous : UInt32) (a : Nat) :
  r.entry.Matches previous a ↔ r.Holds a
  := by
  obtain ⟨j, q, hj, hlength, hbase, haddr⟩ := r.blockAddr_eq
  have hmode : r.entry.mode = .block := Entry.mode_ofFields _ _ _ _
  rw [Entry.matches_block_iff hmode (by omega) haddr, Holds, stop, hbase, hlength]

@[simp]
theorem Region.permissions_entry (r : Region) :
  r.entry.permissions = r.permissions
  := by
  apply Entry.permissions_ofFields

@[simp]
theorem Region.isLocked_entry (r : Region) :
  r.entry.isLocked = r.locked
  := by
  apply Entry.isLocked_ofFields

/-! ### Banks that grant regions -/

section Grants

variable {B : Type} [ProtectionBank B]

open ProtectionBank

/-- The first entries of a bank grant the regions of a list, and its other entries are off. -/
structure ProtectionBank.GrantsExactly (b : B) (rs : List Region) : Prop where
  fits : rs.length ≤ entryCount b
  granted : ∀ index (h : index < rs.length), entry b index = rs[index].entry
  off : ∀ index, rs.length ≤ index → index < entryCount b → (entry b index).mode = .off

theorem ProtectionBank.GrantsExactly.matchesAt_iff {b : B} {rs : List Region}
    (h : GrantsExactly b rs) {a index : Nat} (hindex : index < entryCount b) :
  MatchesAt b a index ↔ ∃ hfits : index < rs.length, rs[index].Holds a
  := by
  rw [MatchesAt]
  by_cases hfits : index < rs.length
  · rw [h.granted index hfits, Region.matches_entry_iff]
    simp [hfits]
  · have hoff := h.off index (by omega) hindex
    simp [hfits, Entry.not_matches_of_off hoff]

/-- Where regions are apart, it does not matter which of them is first: user mode may do with
a byte what the region with that byte grants. -/
theorem ProtectionBank.GrantsExactly.userMay_iff {b : B} {rs : List Region}
    (h : GrantsExactly b rs) (hapart : rs.Pairwise fun r s => r.overlaps s = false)
    (kind : AccessKind) (a : Nat) :
  userMay b kind a = true ↔ ∃ r ∈ rs, r.Holds a ∧ r.permissions.allows kind = true
  := by
  have hunique : ∀ i (hi : i < rs.length) j (hj : j < rs.length), rs[i].Holds a →
      rs[j].Holds a → i = j := by
    rw [List.pairwise_iff_getElem] at hapart
    intro i hi j hj hri hrj
    rcases Nat.lt_trichotomy i j with hlt | heq | hgt
    · apply absurd hrj
      apply Region.not_holds_of_not_overlaps (hapart i j hi hj hlt) hri
    · apply heq
    · apply absurd hri
      apply Region.not_holds_of_not_overlaps (hapart j i hj hi hgt) hrj
  rw [userMay]
  cases hdecider : decider? b a with
  | none =>
    have hnone := List.find?_eq_none.mp hdecider
    constructor
    · intro hfalse
      cases hfalse
    · rintro ⟨r, hr, hholds, -⟩
      obtain ⟨i, hi, rfl⟩ := List.getElem_of_mem hr
      have hcount : i < entryCount b := Nat.lt_of_lt_of_le hi h.fits
      have hmatch := (h.matchesAt_iff hcount).mpr ⟨hi, hholds⟩
      apply absurd hmatch
      simpa using hnone i (List.mem_range.mpr hcount)
  | some i =>
    have hcount := List.mem_range.mp (List.mem_of_find?_eq_some hdecider)
    have hmatch := List.find?_some hdecider
    rw [decide_eq_true_eq, h.matchesAt_iff hcount] at hmatch
    obtain ⟨hi, hholds⟩ := hmatch
    dsimp only
    rw [h.granted i hi, Region.permissions_entry]
    constructor
    · intro hallows
      use rs[i], List.getElem_mem hi, hholds, hallows
    · rintro ⟨r, hr, hrholds, hallows⟩
      obtain ⟨j, hj, rfl⟩ := List.getElem_of_mem hr
      obtain rfl := hunique i hi j hj hholds hrholds
      apply hallows

end Grants

end SandboxMonitor
