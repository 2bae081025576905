import SandboxMonitor.Proofs.Protection.Access
import SandboxMonitor.Proofs.Protection.LeastBlock

/-!
# Decoding what was encoded

An octet without reserved bits is put together from the mode, the rights and the lock that it
decodes to (`Entry.eq_ofFields`), and the address register of a block from the base and the size
(`Region.toNat_blockAddr`).  A block is its own cover (`Region.covering_self`), so encoding the
block that an entry names gives the entry, and decoding the entry of a region gives the region
(`encodings_invertible`).
-/

namespace SandboxMonitor

/-! ### Octets -/

theorem Permissions.bits_ofBits (n : Nat) :
  (ofBits n).bits = n % 8
  := by
  rw [bits, ofBits, Nat.toNat_testBit, Nat.toNat_testBit, Nat.toNat_testBit]
  omega

theorem AddressMode.code_ofCode (n : Nat) :
  (ofCode n).code = n % 4
  := by
  have hmode : n % 4 = 0 ∨ n % 4 = 1 ∨ n % 4 = 2 ∨ n % 4 = 3 := by omega
  rw [ofCode]
  rcases hmode with h | h | h | h <;> rw [h] <;> rfl

/-- The bits of the octet that have no meaning are clear. -/
def Entry.Canonical (e : Entry) : Prop :=
  e.cfg.toNat.testBit 5 = false ∧ e.cfg.toNat.testBit 6 = false

instance (e : Entry) : Decidable e.Canonical :=
  inferInstanceAs (Decidable (_ ∧ _))

/-- A canonical octet has nothing but the fields of an entry. -/
theorem Entry.Canonical.toNat_cfg {e : Entry} (h : e.Canonical) :
  e.cfg.toNat = e.permissions.bits + 8 * e.mode.code + 128 * e.isLocked.toNat
  := by
  obtain ⟨hfive, hsix⟩ := h
  have hfits := e.cfg.toNat_lt
  have hbit := fun i => Nat.toNat_testBit e.cfg.toNat i
  have hfifth := hbit 5
  have hsixth := hbit 6
  rw [hfive, Bool.toNat_false] at hfifth
  rw [hsix, Bool.toNat_false] at hsixth
  rw [permissions, mode, isLocked, Permissions.bits_ofBits, AddressMode.code_ofCode, hbit]
  omega

/-- A canonical entry is encoded from its fields. -/
theorem Entry.Canonical.eq_ofFields {e : Entry} (h : e.Canonical) :
  e = ofFields e.mode e.permissions e.isLocked e.addr
  := by
  have hcfg : e.cfg = (ofFields e.mode e.permissions e.isLocked e.addr).cfg := by
    rw [← UInt8.toNat_inj, toNat_cfg_ofFields, h.toNat_cfg]
  obtain ⟨cfg, addr⟩ := e
  exact (Entry.mk.injEq ..).mpr ⟨hcfg, rfl⟩

/-! ### Blocks -/

/-- The trailing ones of a number are followed by a zero. -/
theorem exists_eq_of_trailingOnes {n j : Nat} (h : trailingOnes 32 n = j) (hj : j < 32) :
  ∃ q, n = 2 ^ j * (2 * q) + (2 ^ j - 1)
  := by
  rw [trailingOnes, List.findIdx_eq (by simpa using hj)] at h
  simp only [List.getElem_range, Bool.not_eq_true', Bool.not_eq_false'] at h
  obtain ⟨hzero, hones⟩ := h
  have hlow : n % 2 ^ j = 2 ^ j - 1 := by
    apply Nat.eq_of_testBit_eq
    intro i
    rw [Nat.testBit_mod_two_pow, Nat.testBit_two_pow_sub_one]
    by_cases hi : i < j
    · rw [hones i hi, Bool.and_true]
    · simp [hi]
  have heven : n / 2 ^ j % 2 = 0 := by
    rw [← Nat.toNat_testBit, hzero, Bool.toNat_false]
  use n / 2 ^ j / 2
  have hhalf : 2 * (n / 2 ^ j / 2) = n / 2 ^ j := by omega
  rw [hhalf, ← hlow]
  apply (Nat.div_add_mod n (2 ^ j)).symm

/-- Cutting off the ones of an address register leaves the number of the block. -/
theorem four_mul_shiftLeft_eq (j q : Nat) :
  4 * ((2 ^ j * (2 * q) + (2 ^ j - 1)) >>> j <<< j) = 2 ^ (j + 3) * q
  := by
  have hlow : 2 ^ j - 1 < 2 ^ j := Nat.sub_lt (Nat.two_pow_pos j) (by decide)
  have hnumber : (2 ^ j * (2 * q) + (2 ^ j - 1)) / 2 ^ j = 2 * q := by
    rw [Nat.mul_add_div (Nat.two_pow_pos j), Nat.div_eq_of_lt hlow, Nat.add_zero]
  rw [Nat.shiftLeft_eq, Nat.shiftRight_eq_div_pow, hnumber]
  ring

/-- The block that an entry names, by the number of trailing ones. -/
theorem Entry.blockWindow_eq {e : Entry} {j q : Nat} (hmode : e.mode = .block) (hj : j < 32)
    (haddr : e.addr.toNat = 2 ^ j * (2 * q) + (2 ^ j - 1)) :
  e.blockWindow = some (.ofNat (2 ^ (j + 3) * q), 2 ^ (j + 3))
  := by
  rw [blockWindow, hmode]
  dsimp only
  rw [haddr, trailingOnes_eq q hj, four_mul_shiftLeft_eq, Nat.one_shiftLeft]

namespace Region

theorem mode_entry (r : Region) :
  r.entry.mode = .block
  := by
  apply Entry.mode_ofFields

/-- The address register of a region has the number of its block, a zero and the ones of its
size. -/
theorem toNat_blockAddr {r : Region} {j q : Nat} (hlength : r.length.toNat = 2 ^ (j + 3))
    (hbase : r.base.toNat = 2 ^ (j + 3) * q) :
  r.blockAddr.toNat = 2 ^ j * (2 * q) + (2 ^ j - 1)
  := by
  obtain ⟨i, p, -, hlength', hbase', haddr⟩ := r.blockAddr_eq
  have hexponent : i + 3 = j + 3 :=
    Nat.pow_right_injective (Nat.le_refl 2) (hlength'.symm.trans hlength)
  obtain rfl : i = j := by omega
  obtain rfl : p = q := Nat.eq_of_mul_eq_mul_left (Nat.two_pow_pos _) (hbase'.symm.trans hbase)
  apply haddr

/-- The entry of a region names the block of the region. -/
theorem blockWindow_entry (r : Region) :
  r.entry.blockWindow = some (r.base, r.length.toNat)
  := by
  obtain ⟨j, q, hj, hlength, hbase, haddr⟩ := r.blockAddr_eq
  rw [Entry.blockWindow_eq r.mode_entry (by omega) haddr, ← hbase, ← hlength, UInt32.ofNat_toNat]

theorem length_ne_zero (r : Region) :
  r.length ≠ 0
  := by
  intro hzero
  obtain ⟨k, -, -, hlength, -⟩ := r.isBlock
  rw [hzero, Nat.one_shiftLeft] at hlength
  apply (Nat.two_pow_pos k).ne hlength

theorem eq_of_fields {r s : Region} (hbase : r.base = s.base) (hlength : r.length = s.length)
    (hpermissions : r.permissions = s.permissions) (hlocked : r.locked = s.locked) :
  r = s
  := by
  cases r
  cases s
  cases hbase
  cases hlength
  cases hpermissions
  cases hlocked
  rfl

/-- A region is the cover of its own bytes. -/
theorem covering_self (r : Region) (h : r.permissions.isReserved = false) :
  covering r.base r.length r.permissions r.locked = .ok r
  := by
  have hcovers : Covers r.base.toNat r.length.toNat r.base.toNat r.length.toNat :=
    ⟨r.isBlock, Nat.le_refl _, Nat.le_refl _⟩
  cases hcover : covering r.base r.length r.permissions r.locked with
  | error e =>
    cases covering_eq_error_iff.mp hcover with
    | zeroLength hzero => apply absurd hzero r.length_ne_zero
    | writeWithoutRead _ hwrite hread =>
      rw [Permissions.isReserved_iff.mpr ⟨hwrite, hread⟩] at h
      cases h
    | exceedsAddressSpace _ _ hnone => apply absurd ⟨_, _, hcovers⟩ hnone
  | ok s =>
    obtain ⟨-, hlow, hhigh⟩ := covers_of_covering hcover
    have hshortest := length_le_of_covers hcover hcovers
    obtain ⟨_, -, -, -, -, -, hpermissions, hlocked⟩ := fields_of_covering hcover
    have hbase : s.base = r.base := UInt32.toNat_inj.mp (by omega)
    have hlength : s.length = r.length := UInt32.toNat_inj.mp (by omega)
    rw [eq_of_fields hbase hlength hpermissions hlocked]

end Region

/-- The parts of the address register of an entry which names a block of the address space. -/
theorem Entry.exists_parts {e : Entry} (hmode : e.mode = .block) (haddr : e.addr.toNat < 2 ^ 30)
    {base : UInt32} {size : Nat} (hwindow : e.blockWindow = some (base, size))
    (hsize : size < 2 ^ 32) :
  ∃ j q, j < 29 ∧ e.addr.toNat = 2 ^ j * (2 * q) + (2 ^ j - 1)
    ∧ base.toNat = 2 ^ (j + 3) * q ∧ size = 2 ^ (j + 3)
  := by
  generalize hones : trailingOnes 32 e.addr.toNat = j
  have hj : j < 29 := by
    have hwindow' := hwindow
    rw [blockWindow, hmode] at hwindow'
    dsimp only at hwindow'
    rw [hones, Nat.one_shiftLeft] at hwindow'
    cases hwindow'
    have hexponent := (Nat.pow_lt_pow_iff_right (Nat.lt_succ_self 1)).mp hsize
    omega
  obtain ⟨q, hq⟩ := exists_eq_of_trailingOnes hones (by omega)
  rw [blockWindow_eq hmode (by omega) hq] at hwindow
  cases hwindow
  have hfits : 2 ^ (j + 3) * q < 2 ^ 32 := by
    have hpow : 2 ^ (j + 3) * q = 4 * (2 ^ j * (2 * q)) := by ring
    omega
  use j, q, hj, hq
  rw [UInt32.toNat_ofNat', Nat.mod_eq_of_lt hfits]
  use rfl

/-- An entry is that of the cover of the block which it names. -/
theorem Entry.exists_covering {e : Entry} (hmode : e.mode = .block) (hcanonical : e.Canonical)
    (hpermissions : e.permissions.isReserved = false) (haddr : e.addr.toNat < 2 ^ 30)
    {base : UInt32} {size : Nat} (hwindow : e.blockWindow = some (base, size))
    (hsize : size < 2 ^ 32) :
  ∃ r, Region.covering base (.ofNat size) e.permissions e.isLocked = .ok r ∧ r.entry = e
  := by
  obtain ⟨j, q, hj, hparts, hbase, rfl⟩ := exists_parts hmode haddr hwindow hsize
  have hlength : (UInt32.ofNat (2 ^ (j + 3))).toNat = 2 ^ (j + 3) := by
    rw [UInt32.toNat_ofNat', Nat.mod_eq_of_lt hsize]
  have hblock : IsBlock base.toNat (UInt32.ofNat (2 ^ (j + 3))).toNat := by
    use j + 3, by omega, by omega
    rw [Nat.one_shiftLeft, hlength, hbase]
    use rfl
    apply Nat.mul_mod_right
  let r : Region := ⟨base, .ofNat (2 ^ (j + 3)), e.permissions, e.isLocked, hblock⟩
  use r, r.covering_self hpermissions
  have hregister : r.blockAddr = e.addr := by
    rw [← UInt32.toNat_inj, Region.toNat_blockAddr hlength hbase, hparts]
  rw [hcanonical.eq_ofFields, hmode, Region.entry, hregister]

/-! ### Ranges -/

/-- A range has an encoding when it is not empty, starts and stops at whole words, and its rights
are not reserved. -/
theorem rangeEntries_eq_ok_iff {start stop : UInt32} {permissions : Permissions} {locked : Bool}
    {bottom top : Entry} :
  rangeEntries start stop permissions locked = .ok (bottom, top)
    ↔ (start < stop ∧ start.toNat % 4 = 0 ∧ stop.toNat % 4 = 0
        ∧ ¬ (permissions.write = true ∧ permissions.read = false))
      ∧ bottom = .off (start >>> 2)
      ∧ top = .ofFields .topOfRange permissions locked (stop >>> 2)
  := by
  rw [← mod_four_eq_zero_iff, ← mod_four_eq_zero_iff, ← Permissions.isReserved_iff, rangeEntries]
  constructor
  · intro h
    split at h
    · cases h
    rename_i hreserved
    split at h
    · cases h
    rename_i hstart
    split at h
    · cases h
    rename_i hstop
    split at h
    · cases h
    rename_i horder
    cases h
    use ⟨UInt32.not_le.mp horder, not_not.mp hstart, not_not.mp hstop, hreserved⟩, rfl
  · rintro ⟨⟨horder, hstart, hstop, hreserved⟩, rfl, rfl⟩
    rw [if_neg hreserved, if_neg (not_not.mpr hstart), if_neg (not_not.mpr hstop),
      if_neg (UInt32.not_le.mpr horder)]

/-- The top of a range speaks of the addresses of the range. -/
theorem span_topOfRange {start stop : UInt32} (hstart : start.toNat % 4 = 0)
    (hstop : stop.toNat % 4 = 0) (permissions : Permissions) (locked : Bool) :
  (Entry.ofFields .topOfRange permissions locked (stop >>> 2)).span (start >>> 2)
    = some ⟨start.toNat, stop.toNat⟩
  := by
  rw [Entry.span, Entry.mode_ofFields]
  change some (Span.mk (4 * (start >>> 2).toNat) (4 * (stop >>> 2).toNat)) = _
  rw [toNat_shiftRight_two, toNat_shiftRight_two,
    Nat.mul_div_cancel' (Nat.dvd_of_mod_eq_zero hstart),
    Nat.mul_div_cancel' (Nat.dvd_of_mod_eq_zero hstop)]

theorem span_off (addr previous : UInt32) :
  (Entry.off addr).span previous = none
  := by
  simp [Entry.span, Entry.off, Entry.mode, AddressMode.ofCode]

/-! ### Both directions -/

/-- Encoding and decoding undo each other.  The entry of a region names its block and has its
rights and its lock.  A canonical entry with a block of the address space, and with rights that
are not reserved, is the entry of the cover of this block.  The two entries of a range speak of
the range and of nothing, and exactly the ranges of whole words have them. -/
theorem encodings_invertible :
  (∀ r : Region, r.entry.mode = .block
      ∧ r.entry.blockWindow = some (r.base, r.length.toNat)
      ∧ r.entry.permissions = r.permissions ∧ r.entry.isLocked = r.locked)
    ∧ (∀ (e : Entry) (base : UInt32) (size : Nat), e.mode = .block → e.Canonical →
      ¬ (e.permissions.write = true ∧ e.permissions.read = false) → e.addr.toNat < 2 ^ 30 →
      e.blockWindow = some (base, size) → size < 2 ^ 32 →
      ∃ r, Region.covering base (.ofNat size) e.permissions e.isLocked = .ok r ∧ r.entry = e)
    ∧ (∀ (start stop : UInt32) (permissions : Permissions) (locked : Bool) (bottom top : Entry),
      rangeEntries start stop permissions locked = .ok (bottom, top) →
      top.span bottom.addr = some ⟨start.toNat, stop.toNat⟩
        ∧ top.permissions = permissions ∧ top.isLocked = locked
        ∧ ∀ previous, bottom.span previous = none)
    ∧ ∀ (start stop : UInt32) (permissions : Permissions) (locked : Bool),
      (∃ pair, rangeEntries start stop permissions locked = .ok pair)
        ↔ start < stop ∧ start.toNat % 4 = 0 ∧ stop.toNat % 4 = 0
          ∧ ¬ (permissions.write = true ∧ permissions.read = false)
  := by
  and_intros
  · intro r
    use r.mode_entry, r.blockWindow_entry, r.permissions_entry, r.isLocked_entry
  · intro e base size hmode hcanonical hpermissions haddr hwindow hsize
    rw [← Permissions.isReserved_iff, Bool.not_eq_true] at hpermissions
    apply Entry.exists_covering hmode hcanonical hpermissions haddr hwindow hsize
  · intro start stop permissions locked bottom top h
    obtain ⟨⟨-, hstart, hstop, -⟩, rfl, rfl⟩ := rangeEntries_eq_ok_iff.mp h
    use span_topOfRange hstart hstop permissions locked, Entry.permissions_ofFields _ _ _ _,
      Entry.isLocked_ofFields _ _ _ _, span_off _
  · intro start stop permissions locked
    constructor
    · rintro ⟨⟨bottom, top⟩, h⟩
      apply (rangeEntries_eq_ok_iff.mp h).1
    · intro h
      exact ⟨_, rangeEntries_eq_ok_iff.mpr ⟨h, rfl, rfl⟩⟩

/-- The entry of a locked window of 32 KiB, and the top entry of the range with the same bytes. -/
theorem encodings_invertible_window :
  (∃ r, Region.covering 0x78000 0x8000 .all true = .ok r ∧ r.entry = ⟨0x9F, 0x1EFFF⟩)
    ∧ (Entry.mk 0x8F 0x20000).span 0x1E000 = some ⟨0x78000, 0x80000⟩
  := by
  obtain ⟨-, hblock, hrange, -⟩ := encodings_invertible
  constructor
  · apply hblock ⟨0x9F, 0x1EFFF⟩ 0x78000 0x8000 <;> decide
  · apply (hrange 0x78000 0x80000 .all true ⟨0, 0x1E000⟩ ⟨0x8F, 0x20000⟩ (by decide)).1

end SandboxMonitor
