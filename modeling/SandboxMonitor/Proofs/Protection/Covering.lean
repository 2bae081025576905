import Mathlib.Algebra.Group.Nat.Defs
import Mathlib.Tactic.Use
import SandboxMonitor.Protection.Layout

/-!
# What a layout is rounded to

`Region.covering` answers the least block around a window, so the window lies inside it and
its rights are those asked for.  `Layout.Rounded` says all that `Layout.windows` promises
when it answers regions: each is the cover of its window, every one is locked, and no two of
them share an address unless code and data are one span.
-/

namespace SandboxMonitor

/-- Whether an address lies in a region. -/
def Region.Holds (r : Region) (a : Nat) : Prop := r.base.toNat ≤ a ∧ a < r.stop

/-- Whether every byte of a window lies in a region. -/
def Window.Inside (w : Window) (r : Region) : Prop :=
  r.base ≤ w.base ∧ w.base.toNat + w.length.toNat ≤ r.stop

/-! ### Covering a window -/

/-- Widening ends at a block that reaches the end of the window. -/
theorem le_blockStop_of_widen {base stop k room j : Nat} (h : widen base stop k room = some j) :
  stop ≤ blockStop base j
  := by
  induction room generalizing k with
  | zero => cases h
  | succ room ih =>
    rw [widen] at h
    split at h
    · cases h
    split at h
    · apply ih h
    · rename_i hreaches
      cases h
      apply Nat.le_of_not_lt hreaches

theorem widen_of_coverExponent_le {base length : Nat} (h : coverExponent base length ≤ 31) :
  widen base (base + length) (firstExponent length) (64 - firstExponent length)
    = some (coverExponent base length)
  := by
  unfold coverExponent at h ⊢
  cases hwiden : widen base (base + length) (firstExponent length)
      (64 - firstExponent length) with
  | none =>
    rw [hwiden] at h
    simp at h
  | some k => rfl

theorem blockStop_eq (base k : Nat) :
  blockStop base k = base / 2 ^ k * 2 ^ k + 2 ^ k
  := by
  rw [blockStop, Nat.shiftLeft_eq, Nat.shiftRight_eq_div_pow, Nat.one_shiftLeft]

/-- The base and the length of a cover, and its rights, which are those asked for. -/
theorem Region.fields_of_covering {base length : UInt32} {permissions : Permissions}
    {locked : Bool} {r : Region} (h : covering base length permissions locked = .ok r) :
  ∃ k ≤ 31, coverExponent base.toNat length.toNat = k
    ∧ r.base.toNat = base.toNat >>> k <<< k ∧ r.length.toNat = 1 <<< k
    ∧ base.toNat % (1 <<< k) + length.toNat ≤ 1 <<< k ∧ r.permissions = permissions
    ∧ r.locked = locked
  := by
  unfold covering at h
  split at h
  · cases h
  split at h
  · cases h
  dsimp only at h
  split at h
  · rename_i hk
    cases h
    have hreach := le_blockStop_of_widen (widen_of_coverExponent_le hk)
    have hbase : base.toNat >>> coverExponent base.toNat length.toNat
        <<< coverExponent base.toNat length.toNat < 2 ^ 32 := by
      rw [Nat.shiftLeft_eq, Nat.shiftRight_eq_div_pow]
      apply Nat.lt_of_le_of_lt (Nat.div_mul_le_self _ _) base.toNat_lt
    have hsize : 1 <<< coverExponent base.toNat length.toNat < 2 ^ 32 := by
      rw [Nat.one_shiftLeft]
      apply Nat.pow_lt_pow_right (by decide) (by omega)
    use coverExponent base.toNat length.toNat, hk, rfl
    and_intros
    · rw [UInt32.toNat_ofNat', Nat.mod_eq_of_lt hbase]
    · rw [UInt32.toNat_ofNat', Nat.mod_eq_of_lt hsize]
    · have hsplit := Nat.div_add_mod' base.toNat (2 ^ coverExponent base.toNat length.toNat)
      rw [blockStop_eq] at hreach
      rw [Nat.one_shiftLeft]
      omega
    · rfl
    · rfl
  · cases h

/-- A window lies inside its cover. -/
theorem Region.inside_of_covering {w : Window} {permissions : Permissions} {locked : Bool}
    {r : Region} (h : covering w.base w.length permissions locked = .ok r) :
  w.Inside r
  := by
  obtain ⟨k, -, -, hbase, hlength, hreach, -, -⟩ := fields_of_covering h
  rw [Nat.shiftLeft_eq, Nat.shiftRight_eq_div_pow] at hbase
  rw [Nat.one_shiftLeft] at hlength hreach
  have hsplit := Nat.div_add_mod' w.base.toNat (2 ^ k)
  constructor
  · rw [UInt32.le_iff_toNat_le, hbase]
    omega
  · rw [stop, hbase, hlength]
    omega

/-- The locked region around a window holds the window and grants what was asked for. -/
theorem Window.region_eq_ok {w : Window} {permissions : Permissions} {r : Region}
    (h : w.region permissions = .ok r) :
  w.Inside r ∧ r.permissions = permissions ∧ r.locked = true
  := by
  unfold region at h
  cases hcover : Region.covering w.base w.length permissions true with
  | error e =>
    rw [hcover] at h
    cases h
  | ok s =>
    rw [hcover] at h
    cases h
    obtain ⟨_, -, -, -, -, -, hpermissions, hlocked⟩ := Region.fields_of_covering hcover
    use Region.inside_of_covering hcover, hpermissions, hlocked

/-- A region ends within the address space, or with it. -/
theorem Region.stop_le (r : Region) :
  r.stop ≤ 2 ^ 32
  := by
  obtain ⟨k, -, hhi, hlength, hbase⟩ := r.isBlock
  rw [Nat.one_shiftLeft] at hlength hbase
  -- The base and the size of the address space are both multiples of the length.
  obtain ⟨q, hq⟩ := Nat.dvd_of_mod_eq_zero hbase
  obtain ⟨n, hn⟩ := Nat.pow_dvd_pow 2 (show k ≤ 32 by omega)
  have hlt := r.base.toNat_lt
  rw [hq, hn] at hlt
  rw [stop, hlength, hq, hn, ← Nat.mul_succ]
  apply Nat.mul_le_mul_left
  apply Nat.succ_le_of_lt (Nat.lt_of_mul_lt_mul_left hlt)

/-! ### Regions apart -/

/-- Regions that do not overlap have no address in common. -/
theorem Region.not_holds_of_not_overlaps {r s : Region} (h : r.overlaps s = false) {a : Nat}
    (hr : r.Holds a) :
  ¬ s.Holds a
  := by
  intro hs
  obtain ⟨hrlo, hrhi⟩ := hr
  obtain ⟨hslo, hshi⟩ := hs
  simp only [overlaps, Bool.and_eq_false_iff, decide_eq_false_iff_not] at h
  omega

/-! ### Rounding a layout -/

/-- Two attempts after one another succeed when both do. -/
theorem exists_of_bind_eq_ok {ε α β : Type} {x : Except ε α} {f : α → Except ε β} {b : β}
    (h : x >>= f = .ok b) :
  ∃ a, x = .ok a ∧ f a = .ok b
  := by
  cases x with
  | error e => cases h
  | ok a => use a, rfl, h

/-- How the code and the data of a layout are rounded. -/
inductive MemoryRounded : Layout → Windows → Prop where
  /-- Two covers apart from each other. -/
  | split {code data : Window} {peripheral : Option Window} {ws : Windows}
      (code_eq : code.region .readExecute = .ok ws.code)
      (data_eq : data.region .readWrite = .ok ws.data)
      (apart : ws.code.overlaps ws.data = false) (isolation : ws.isolation = .split) :
      MemoryRounded (.split code data peripheral) ws
  /-- One cover that serves as both. -/
  | combined {span : Window} {peripheral : Option Window} {ws : Windows}
      (code_eq : span.region .all = .ok ws.code) (data_eq : ws.data = ws.code)
      (isolation : ws.isolation = .degraded) :
      MemoryRounded (.combined span peripheral) ws

/-- How an optional peripheral window is rounded. -/
inductive PeripheralRounded : Option Window → Option Region → Prop where
  | absent : PeripheralRounded none none
  | present {w : Window} {r : Region} (region_eq : w.region .readWrite = .ok r) :
      PeripheralRounded (some w) (some r)

/-- What is true of the regions that a layout is given. -/
structure Layout.Rounded (l : Layout) (ws : Windows) : Prop where
  memory : MemoryRounded l ws
  peripheral : PeripheralRounded l.peripheral ws.peripheral
  /-- The peripheral is apart from code and data. -/
  apart : ∀ r, ws.peripheral = some r → ws.meets r = false

theorem Layout.rounded_of_memoryWindows {l : Layout} {peripheral : Option Region}
    {ws : Windows} (h : l.memoryWindows peripheral = .ok ws) :
  MemoryRounded l ws ∧ ws.peripheral = peripheral
  := by
  cases l with
  | split code data p =>
    obtain ⟨c, hcode, h⟩ := exists_of_bind_eq_ok h
    obtain ⟨d, hdata, h⟩ := exists_of_bind_eq_ok h
    split at h
    · cases h
    · rename_i hapart
      cases h
      use .split hcode hdata (eq_false_of_ne_true hapart) rfl
  | combined span p =>
    obtain ⟨s, hspan, h⟩ := exists_of_bind_eq_ok h
    cases h
    use .combined hspan rfl rfl

/-- The regions that a layout answers are its windows, rounded and apart. -/
theorem Layout.rounded_of_windows {l : Layout} {ws : Windows} (h : l.windows = .ok ws) :
  l.Rounded ws
  := by
  unfold windows at h
  obtain ⟨p, hp, vs, hmemory, h⟩ : ∃ p, PeripheralRounded l.peripheral p
      ∧ ∃ vs, l.memoryWindows p = .ok vs
        ∧ (if vs.peripheral.any vs.meets then .error ProtectionError.overlap else .ok vs)
          = Except.ok ws := by
    cases hwindow : l.peripheral with
    | none =>
      rw [hwindow] at h
      obtain ⟨p, hnone, h⟩ := exists_of_bind_eq_ok h
      cases hnone
      use none, .absent
      apply exists_of_bind_eq_ok h
    | some w =>
      rw [hwindow] at h
      obtain ⟨p, hregion, h⟩ := exists_of_bind_eq_ok h
      cases hcover : w.region .readWrite with
      | error e =>
        rw [hcover] at hregion
        cases hregion
      | ok r =>
        rw [hcover] at hregion
        cases hregion
        use some r, .present hcover
        apply exists_of_bind_eq_ok h
  split at h
  · cases h
  · rename_i hapart
    cases h
    obtain ⟨hrounded, hperipheral⟩ := rounded_of_memoryWindows hmemory
    constructor
    · apply hrounded
    · rw [hperipheral]
      apply hp
    · intro r hr
      rw [hr] at hapart
      apply eq_false_of_ne_true hapart

end SandboxMonitor
