import SandboxMonitor.Hart.PackedBank
import SandboxMonitor.Proofs.Protection.Locking

/-!
# Entries in packed registers

A write to an entry of a `PackedBank` reads, changes and writes back a register that holds the
octets of three more entries.  `octetOf_withOctet` says that lanes are apart, and
`PackedBank.octetOf_keepLocked` which lanes a write to a configuration register keeps.  Both
together give what an entry reads as after a write (`PackedBank.entry_write`): the write has
changed no other entry, whichever of them are locked.  So packed registers respect locks.
-/

namespace SandboxMonitor

/-! ### Lanes of a word -/

theorem testBit_octetOf (w : UInt32) {lane k : Nat} (hlane : lane < 4) (hk : k < 8) :
  (octetOf w lane).toNat.testBit k = w.toNat.testBit (8 * lane + k)
  := by
  have hshift : (UInt32.ofNat (8 * lane)).toNat % 32 = 8 * lane := by
    rw [UInt32.toNat_ofNat']
    omega
  rw [octetOf, UInt32.toNat_toUInt8, UInt32.toNat_shiftRight, hshift, Nat.testBit_mod_two_pow,
    Nat.testBit_shiftRight]
  simp [hk]

theorem testBit_withOctet (w : UInt32) (b : UInt8) {lane n : Nat} (hlane : lane < 4)
    (hn : n < 32) :
  (withOctet w lane b).toNat.testBit n
    = if n / 8 = lane then b.toNat.testBit (n % 8) else w.toNat.testBit n
  := by
  have hshift : (UInt32.ofNat (8 * lane)).toNat % 32 = 8 * lane := by
    rw [UInt32.toNat_ofNat']
    omega
  -- The bits that the mask and the new octet have are those of the lane.
  have hmask : ((0xFF : UInt32) <<< UInt32.ofNat (8 * lane)).toNat.testBit n
      = decide (n / 8 = lane) := by
    rw [UInt32.toNat_shiftLeft, hshift, Nat.testBit_mod_two_pow, Nat.testBit_shiftLeft]
    change (decide (n < 32) && (decide (n ≥ 8 * lane) && Nat.testBit (2 ^ 8 - 1) (n - 8 * lane)))
      = _
    rw [Nat.testBit_two_pow_sub_one, ← Bool.decide_and, ← Bool.decide_and, decide_eq_decide]
    omega
  have hnew : (b.toUInt32 <<< UInt32.ofNat (8 * lane)).toNat.testBit n
      = (decide (n / 8 = lane) && b.toNat.testBit (n % 8)) := by
    rw [UInt32.toNat_shiftLeft, hshift, Nat.testBit_mod_two_pow, Nat.testBit_shiftLeft,
      UInt8.toNat_toUInt32]
    by_cases hin : n / 8 = lane
    · have hindex : n - 8 * lane = n % 8 := by omega
      simp [hin, hindex, hn, show 8 * lane ≤ n by omega]
    · by_cases hbelow : n < 8 * lane
      · simp [hin, show ¬ 8 * lane ≤ n by omega]
      · rw [Nat.testBit_lt_two_pow]
        · simp [hin]
        · apply Nat.lt_of_lt_of_le b.toNat_lt
          apply Nat.pow_le_pow_right (by decide) (by omega)
  rw [withOctet, UInt32.toNat_or, UInt32.toNat_and, Nat.testBit_or, Nat.testBit_and,
    UInt32.toNat_not, UInt32.size, Nat.sub_sub, Nat.add_comm 1,
    Nat.testBit_two_pow_sub_succ (UInt32.toNat_lt _), hmask, hnew]
  by_cases hin : n / 8 = lane
  · simp [hin]
  · simp [hin, hn]

/-- Putting an octet into one lane leaves the other lanes as they are. -/
theorem octetOf_withOctet (w : UInt32) (b : UInt8) {lane other : Nat} (hlane : lane < 4)
    (hother : other < 4) :
  octetOf (withOctet w lane b) other = if other = lane then b else octetOf w other
  := by
  apply UInt8.toNat_inj.mp
  apply Nat.eq_of_testBit_eq
  intro k
  by_cases hk : k < 8
  · have hdiv : (8 * other + k) / 8 = other := by omega
    have hmod : (8 * other + k) % 8 = k := by omega
    rw [testBit_octetOf _ hother hk, testBit_withOctet _ _ hlane (by omega), hdiv, hmod]
    split
    · rfl
    · rw [testBit_octetOf _ hother hk]
  · have hzero : ∀ c : UInt8, c.toNat.testBit k = false := by
      intro c
      apply Nat.testBit_lt_two_pow
      apply Nat.lt_of_lt_of_le c.toNat_lt
      apply Nat.pow_le_pow_right (by decide) (by omega)
    rw [hzero, hzero]

/-! ### Writing to the registers -/

theorem Entry.eq_of_fields {e e' : Entry} (hcfg : e.cfg = e'.cfg) (haddr : e.addr = e'.addr) :
  e = e'
  := by
  cases e
  cases e'
  cases hcfg
  cases haddr
  rfl

namespace PackedBank

theorem octetOf_keepLane (b : PackedBank) (k : Nat) (w : UInt32) {lane other : Nat}
    (hlane : lane < 4) (hother : other < 4) :
  octetOf (b.keepLane k w lane) other
    = if other = lane ∧ (b.entry (4 * k + lane)).isLocked = true then octetOf (b.readConfig k) other
      else octetOf w other
  := by
  rw [keepLane]
  split
  · rename_i hlocked
    rw [octetOf_withOctet _ _ hlane hother]
    split
    · rename_i heq
      rw [heq, if_pos ⟨rfl, hlocked⟩]
    · rename_i hne
      rw [if_neg (fun h => hne h.1)]
  · rename_i hopen
    rw [if_neg (fun h => hopen h.2)]

/-- Keeping some lanes one after the other keeps the locked ones among them. -/
theorem octetOf_foldl_keepLane (b : PackedBank) (k : Nat) (w : UInt32) {lanes : List Nat}
    (hlanes : ∀ lane ∈ lanes, lane < 4) {other : Nat} (hother : other < 4) :
  octetOf (lanes.foldl (b.keepLane k) w) other
    = if other ∈ lanes ∧ (b.entry (4 * k + other)).isLocked = true then
        octetOf (b.readConfig k) other
      else octetOf w other
  := by
  induction lanes generalizing w with
  | nil => simp
  | cons lane rest ih =>
    rw [List.foldl_cons, ih _ (fun l hl => hlanes l (List.mem_cons_of_mem lane hl)),
      octetOf_keepLane b k w (hlanes lane List.mem_cons_self) hother]
    by_cases heq : other = lane
    · subst heq
      by_cases hlocked : (b.entry (4 * k + other)).isLocked = true
      · simp [hlocked]
      · simp [hlocked]
    · simp [heq]

/-- A write to a configuration register keeps the octets of locked entries. -/
theorem octetOf_keepLocked (b : PackedBank) (k : Nat) (w : UInt32) {lane : Nat}
    (hlane : lane < 4) :
  octetOf (b.keepLocked k w) lane
    = if (b.entry (4 * k + lane)).isLocked = true then octetOf (b.readConfig k) lane
      else octetOf w lane
  := by
  have hmem : lane ∈ List.range 4 := List.mem_range.mpr hlane
  rw [keepLocked, octetOf_foldl_keepLane b k w (fun l hl => List.mem_range.mp hl) hlane]
  simp [hmem]

theorem readConfig_writeConfig (b : PackedBank) {k : Nat} (w : UInt32) (hk : k < 4) (j : Nat) :
  (b.writeConfig k w).readConfig j = if j = k then b.keepLocked k w else b.readConfig j
  := by
  rw [readConfig, writeConfig, Vector.getElem?_setIfInBounds]
  by_cases heq : k = j
  · simp [heq, show j < 4 by omega]
  · simp [heq, Ne.symm heq, readConfig]

theorem readAddress_writeAddress (b : PackedBank) {i : Nat} (addr : UInt32) (hi : i < 16)
    (j : Nat) :
  (b.writeAddress i addr).readAddress j
    = if j = i ∧ b.addrFrozen i = false then addr else b.readAddress j
  := by
  rw [writeAddress]
  split
  · rename_i hfrozen
    simp [hfrozen]
  · rename_i hfree
    rw [readAddress, Vector.getElem?_setIfInBounds]
    by_cases heq : i = j
    · subst heq
      simp [hfree, hi]
    · simp [heq, Ne.symm heq, readAddress]

@[simp]
theorem readConfig_writeAddress (b : PackedBank) (i : Nat) (addr : UInt32) (k : Nat) :
  (b.writeAddress i addr).readConfig k = b.readConfig k
  := by
  rw [writeAddress]
  split <;> rfl

/-- Whether an entry is locked is for its octet to say. -/
theorem isLocked_writeAddress (b : PackedBank) (i : Nat) (addr : UInt32) (j : Nat) :
  ((b.writeAddress i addr).entry j).isLocked = (b.entry j).isLocked
  := by
  rw [Entry.isLocked, Entry.isLocked, entry, entry, readConfig_writeAddress]

/-! ### Writing to an entry -/

theorem cfg_write (b : PackedBank) {i : Nat} (e : Entry) (hi : i < 16) (j : Nat) :
  ((b.write i e).entry j).cfg
    = if j = i ∧ (b.entry i).isLocked = false then e.cfg else (b.entry j).cfg
  := by
  have hlane : ∀ n, n % 4 < 4 := fun n => Nat.mod_lt n (by decide)
  have hindex : 4 * (j / 4) + j % 4 = j := Nat.div_add_mod j 4
  change octetOf ((b.write i e).readConfig (j / 4)) (j % 4)
    = if j = i ∧ (b.entry i).isLocked = false then e.cfg else octetOf (b.readConfig (j / 4)) (j % 4)
  rw [write, readConfig_writeConfig _ _ (by omega)]
  by_cases hsame : j / 4 = i / 4
  · rw [if_pos hsame, octetOf_keepLocked _ _ _ (hlane j), ← hsame, hindex,
      isLocked_writeAddress, readConfig_writeAddress, octetOf_withOctet _ _ (hlane i) (hlane j)]
    by_cases heq : j = i
    · subst heq
      cases (b.entry j).isLocked <;> simp
    · have hne : j % 4 ≠ i % 4 := by omega
      simp [heq, hne]
  · have hne : j ≠ i := by
      rintro rfl
      apply hsame rfl
    simp [hsame, hne]

/-- A write to an entry changes no other entry; a locked entry stays as it is, and so does the
address where a locked range starts. -/
theorem entry_write (b : PackedBank) {i : Nat} (e : Entry) (hi : i < 16) (j : Nat) :
  (b.write i e).entry j
    = if j = i ∧ (b.entry i).isLocked = false then
        ⟨e.cfg, if b.addrFrozen i = true then (b.entry i).addr else e.addr⟩
      else b.entry j
  := by
  have haddr : ((b.write i e).entry j).addr
      = if j = i ∧ b.addrFrozen i = false then e.addr else (b.entry j).addr :=
    readAddress_writeAddress b e.addr hi j
  have hcfg := cfg_write b e hi j
  by_cases heq : j = i
  · subst heq
    cases hlocked : (b.entry j).isLocked with
    | true =>
      have hfrozen : b.addrFrozen j = true := by rw [addrFrozen, hlocked, Bool.true_or]
      simp only [hlocked, hfrozen, reduceCtorEq, and_false, if_false] at hcfg haddr ⊢
      apply Entry.eq_of_fields hcfg haddr
    | false =>
      simp only [hlocked, true_and, if_true] at hcfg haddr ⊢
      apply Entry.eq_of_fields
      · apply hcfg
      · rw [haddr]
        cases b.addrFrozen j <;> rfl
  · simp only [heq, false_and, if_false] at hcfg haddr ⊢
    apply Entry.eq_of_fields hcfg haddr

/-- There are no registers for entries from 16 on. -/
theorem write_of_ge (b : PackedBank) {i : Nat} (e : Entry) (hi : 16 ≤ i) :
  b.write i e = b
  := by
  have haddress : b.writeAddress i e.addr = b := by
    rw [writeAddress, Vector.setIfInBounds_eq_of_size_le hi]
    split <;> rfl
  rw [write, haddress, writeConfig, Vector.setIfInBounds_eq_of_size_le (by omega)]

end PackedBank

instance : ProtectionBank.LockRespecting PackedBank where
  entryCount_write _ _ _ := rfl
  entry_write b index e i hlocked := by
    change (b.write index e).entry i = b.entry i
    by_cases hindex : index < 16
    · rw [b.entry_write e hindex, if_neg]
      rintro ⟨rfl, hopen⟩
      cases hopen.symm.trans hlocked
    · rw [b.write_of_ge e (Nat.not_lt.mp hindex)]

end SandboxMonitor
