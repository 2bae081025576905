import Mathlib.Data.List.Forall2
import SandboxMonitor.Proofs.Protection.Isolation
import SandboxMonitor.Proofs.Protection.Ranges

/-!
# Layouts that can be fenced

A layout asks for windows, and each of them is to be fenced by the least block that holds it.
This can be done just when every window has such a block and no two of the blocks share an
address, and just then `Layout.windows` answers regions (`Layout.windows_fenceable`).  Rounding
may make a window swallow a neighbour that it did not touch.

The windows are rounded one after the other (`Layout.rounding`), and their regions are compared
afterwards, so that one equation (`Layout.map_windows`) says which error comes first.
-/

namespace SandboxMonitor

/-! ### The least block of a window -/

/-- A block that holds a window is the one around the base. -/
theorem Covers.base_eq {b n base length : Nat} (h : Covers b n base length)
    (hlength : 0 < length) :
  base / n * n = b
  := by
  obtain ⟨⟨k, -, -, rfl, hb⟩, hlow, hhigh⟩ := h
  obtain ⟨q, rfl⟩ := Nat.dvd_of_mod_eq_zero hb
  rw [Nat.mul_comm _ q] at hlow hhigh ⊢
  rw [Nat.div_eq_of_lt_le hlow (by rw [Nat.add_mul]; omega)]

namespace Window

/-- The `n` bytes at `b` are the least block of the address space that holds the window. -/
structure LeastCover (w : Window) (b n : Nat) : Prop where
  covers : Covers b n w.base.toNat w.length.toNat
  least : ∀ b' n', Covers b' n' w.base.toNat w.length.toNat → n ≤ n'

/-- The window is not empty and there is a least block of the address space that holds it. -/
def Coverable (w : Window) : Prop := w.length ≠ 0 ∧ ∃ b n, w.LeastCover b n

/-- The least blocks of two windows have no address in common. -/
def Apart (w v : Window) : Prop :=
  ∀ b n b' n', w.LeastCover b n → v.LeastCover b' n' →
    ∀ a, ¬ ((b ≤ a ∧ a < b + n) ∧ (b' ≤ a ∧ a < b' + n'))

/-- A window that is not empty has one least block. -/
theorem LeastCover.unique {w : Window} {b n b' n' : Nat} (hlength : w.length ≠ 0)
    (h : w.LeastCover b n) (h' : w.LeastCover b' n') :
  b = b' ∧ n = n'
  := by
  have hpos : 0 < w.length.toNat := by
    apply Nat.pos_of_ne_zero
    rwa [Ne, ← UInt32.toNat_zero, UInt32.toNat_inj]
  obtain rfl : n = n' := Nat.le_antisymm (h.least _ _ h'.covers) (h'.least _ _ h.covers)
  rw [← h.covers.base_eq hpos, ← h'.covers.base_eq hpos]
  use rfl

end Window

/-- The region is the least block of a window, locked and with the given rights. -/
structure Region.Fences (r : Region) (w : Window) (rights : Permissions) : Prop where
  least : w.LeastCover r.base.toNat r.length.toNat
  permissions : r.permissions = rights
  locked : r.locked = true

theorem Region.length_pos (r : Region) :
  0 < r.length.toNat
  := by
  apply Nat.pos_of_ne_zero
  rw [Ne, ← UInt32.toNat_zero, UInt32.toNat_inj]
  apply r.length_ne_zero

/-- Regions overlap just when they have an address in common. -/
theorem Region.overlaps_eq_false_iff {r s : Region} :
  r.overlaps s = false ↔ ∀ a, ¬ (r.Holds a ∧ s.Holds a)
  := by
  constructor
  · rintro h a ⟨hr, hs⟩
    apply not_holds_of_not_overlaps h hr hs
  · intro h
    rw [overlaps, Bool.and_eq_false_iff, decide_eq_false_iff_not, decide_eq_false_iff_not]
    by_contra hboth
    apply h (max r.base.toNat s.base.toNat)
    have hr := r.length_pos
    have hs := s.length_pos
    simp only [Holds, stop] at hboth ⊢
    omega

namespace Window

variable {w v : Window} {rights rights' : Permissions} {r s : Region}

theorem covering_of_region (h : w.region rights = .ok r) :
  Region.covering w.base w.length rights true = .ok r
  := by
  rw [region] at h
  cases hcovering : Region.covering w.base w.length rights true with
  | error cause =>
    rw [hcovering] at h
    cases h
  | ok s =>
    rw [hcovering] at h
    cases h
    rfl

theorem covering_of_region_eq_error {e : ProtectionError} (h : w.region rights = .error e) :
  ∃ cause, Region.covering w.base w.length rights true = .error cause ∧ e = .encoding cause
  := by
  rw [region] at h
  cases hcovering : Region.covering w.base w.length rights true with
  | error cause =>
    rw [hcovering] at h
    cases h
    use cause
  | ok s =>
    rw [hcovering] at h
    cases h

/-- The region that a window is given fences it. -/
theorem fences_of_region (h : w.region rights = .ok r) :
  r.Fences w rights
  := by
  have hcovering := covering_of_region h
  obtain ⟨-, hpermissions, hlocked⟩ := region_eq_ok h
  use ⟨Region.covers_of_covering hcovering,
    fun _ _ hcovers => Region.length_le_of_covers hcovering hcovers⟩, hpermissions, hlocked

theorem length_ne_zero_of_region (h : w.region rights = .ok r) :
  w.length ≠ 0
  := by
  intro hzero
  have hcovering := covering_of_region h
  rw [Region.covering_eq_error_iff.mpr (.zeroLength hzero)] at hcovering
  cases hcovering

/-- A window is given a region just when it can be covered. -/
theorem coverable_iff_region (hrights : rights.isReserved = false) :
  w.Coverable ↔ ∃ r, w.region rights = .ok r
  := by
  constructor
  · rintro ⟨hlength, b, n, hleast⟩
    cases hregion : w.region rights with
    | ok r => use r
    | error e =>
      obtain ⟨cause, hcovering, -⟩ := covering_of_region_eq_error hregion
      cases Region.covering_eq_error_iff.mp hcovering with
      | zeroLength hzero => apply absurd hzero hlength
      | writeWithoutRead _ hwrite hread =>
        rw [Permissions.isReserved_iff.mpr ⟨hwrite, hread⟩] at hrights
        cases hrights
      | exceedsAddressSpace _ _ hnone => apply absurd ⟨b, n, hleast.covers⟩ hnone
  · rintro ⟨r, hregion⟩
    exact ⟨length_ne_zero_of_region hregion, _, _, (fences_of_region hregion).least⟩

/-- Windows are apart just when their regions do not overlap. -/
theorem apart_iff_overlaps (hw : w.region rights = .ok r) (hv : v.region rights' = .ok s) :
  w.Apart v ↔ r.overlaps s = false
  := by
  rw [Region.overlaps_eq_false_iff]
  have hr := (fences_of_region hw).least
  have hs := (fences_of_region hv).least
  constructor
  · intro h
    apply h _ _ _ _ hr hs
  · intro h b n b' n' hb hb'
    obtain ⟨rfl, rfl⟩ := hb.unique (length_ne_zero_of_region hw) hr
    obtain ⟨rfl, rfl⟩ := hb'.unique (length_ne_zero_of_region hv) hs
    apply h

end Window

/-! ### One window after the other -/

/-- A list of attempts answers all of its items, or fails as the first that does. -/
theorem forall₂_or_error_of_mapM {ε α β : Type} (f : α → Except ε β) (xs : List α) :
  (∃ ys, xs.mapM f = .ok ys ∧ List.Forall₂ (fun x y => f x = .ok y) xs ys)
    ∨ ∃ before x after e, xs = before ++ x :: after ∧ (∀ y ∈ before, ∃ z, f y = .ok z)
      ∧ f x = .error e ∧ xs.mapM f = .error e
  := by
  induction xs with
  | nil =>
    left
    use [], rfl, .nil
  | cons x xs ih =>
    cases hx : f x with
    | error e =>
      right
      use [], x, xs, e, rfl, List.forall_mem_nil _, hx
      rw [List.mapM_cons, hx]
      rfl
    | ok y =>
      rcases ih with ⟨ys, hall, heach⟩ | ⟨before, x', after, e, rfl, hbefore, hfault, hall⟩
      · left
        use y :: ys
        rw [List.mapM_cons, hx, hall]
        use rfl, .cons hx heach
      · right
        use x :: before, x', after, e, rfl, ?_, hfault
        · rw [List.mapM_cons, hx, hall]
          rfl
        · rintro z (_ | ⟨_, hz⟩)
          · use y
          · apply hbefore z hz

namespace Layout

/-- The windows that a layout asks for and the rights it asks for, the peripheral first. -/
def requests : Layout → List (Window × Permissions)
  | split code data p =>
    p.toList.map (·, .readWrite) ++ [(code, .readExecute), (data, .readWrite)]
  | combined span p => p.toList.map (·, .readWrite) ++ [(span, .all)]

/-- The regions of the windows that a layout asks for. -/
def rounding (l : Layout) : Except ProtectionError (List Region) :=
  l.requests.mapM fun request => request.1.region request.2

end Layout

/-- The regions of a sandbox in the order in which they are asked for. -/
def Windows.requested (ws : Windows) : List Region :=
  ws.peripheral.toList ++ ws.code :: (match ws.isolation with
    | .split => [ws.data]
    | .degraded => [])

namespace Layout

/-- A layout is given the regions of its windows if none of them overlap. -/
theorem map_windows (l : Layout) :
  Windows.requested <$> l.windows
    = l.rounding >>= fun rs =>
      if rs.Pairwise fun r s => r.overlaps s = false then pure rs else .error .overlap
  := by
  have hmap : ∀ x : Except ProtectionError Region, x.map some = some <$> x := fun _ => rfl
  have hok : ∀ {α : Type} (v : α), (Except.ok v : Except ProtectionError α) = pure v :=
    fun _ => rfl
  have hstop : ∀ {α β : Type} (f : α → Except ProtectionError β),
      Except.error .overlap >>= f = .error .overlap := fun _ => rfl
  have hstop' : ∀ {α β : Type} (f : α → β),
      f <$> (Except.error .overlap : Except ProtectionError α) = .error .overlap := fun _ => rfl
  -- Both sides round the windows in the same order; what is left is the comparison.
  rw [windows, rounding]
  rcases l with ⟨code, data, _ | w⟩ | ⟨span, _ | w⟩
  all_goals simp only [peripheral, requests, memoryWindows, Option.toList, List.map_nil,
    List.map_cons, List.nil_append, List.cons_append, List.mapM_cons, List.mapM_nil, bind_assoc,
    pure_bind, map_bind, bind_map_left, hok, hmap]
  · apply bind_congr
    intro c
    apply bind_congr
    intro d
    cases hdata : c.overlaps d <;> simp [Windows.requested, hdata, hstop]
  · apply bind_congr
    intro r
    apply bind_congr
    intro c
    apply bind_congr
    intro d
    cases hdata : c.overlaps d <;> cases hcode : r.overlaps c <;> cases hother : r.overlaps d <;>
      simp [Windows.requested, Windows.meets, hdata, hcode, hother, hstop, hstop']
  · apply bind_congr
    intro c
    simp [Windows.requested]
  · apply bind_congr
    intro r
    apply bind_congr
    intro c
    cases hcode : r.overlaps c <;> simp [Windows.requested, Windows.meets, hcode, hstop']

theorem windows_of_rounding_eq_error {l : Layout} {e : ProtectionError}
    (h : l.rounding = .error e) :
  l.windows = .error e
  := by
  have hmap := l.map_windows
  rw [h] at hmap
  cases hwindows : l.windows with
  | ok ws =>
    rw [hwindows] at hmap
    cases hmap
  | error e' =>
    rw [hwindows] at hmap
    cases hmap
    rfl

theorem windows_of_rounding_eq_ok {l : Layout} {rs : List Region} (h : l.rounding = .ok rs) :
  (rs.Pairwise (fun r s => r.overlaps s = false) → ∃ ws, l.windows = .ok ws)
    ∧ (¬ rs.Pairwise (fun r s => r.overlaps s = false) → l.windows = .error .overlap)
  := by
  have hmap := l.map_windows
  rw [h] at hmap
  constructor
  · intro hapart
    have hok : Windows.requested <$> l.windows = .ok rs := hmap.trans (if_pos hapart)
    cases hwindows : l.windows with
    | ok ws => use ws
    | error e =>
      rw [hwindows] at hok
      cases hok
  · intro hapart
    have hoverlap : Windows.requested <$> l.windows = .error .overlap :=
      hmap.trans (if_neg hapart)
    cases hwindows : l.windows with
    | ok ws =>
      rw [hwindows] at hoverlap
      cases hoverlap
    | error e =>
      rw [hwindows] at hoverlap
      cases hoverlap
      rfl

/-- No layout asks for reserved rights. -/
theorem isReserved_of_mem_requests {l : Layout} {request : Window × Permissions}
    (h : request ∈ l.requests) :
  request.2.isReserved = false
  := by
  rcases l with ⟨code, data, _ | w⟩ | ⟨span, _ | w⟩
  all_goals
    simp only [requests, Option.toList, List.map_nil, List.map_cons, List.nil_append,
      List.cons_append, List.mem_cons, List.not_mem_nil, or_false] at h
  · rcases h with rfl | rfl <;> rfl
  · rcases h with rfl | rfl | rfl <;> rfl
  · subst h
    rfl
  · rcases h with rfl | rfl <;> rfl

theorem coverable_iff_of_mem_requests {l : Layout} {request : Window × Permissions}
    (h : request ∈ l.requests) :
  request.1.Coverable ↔ ∃ r, request.1.region request.2 = .ok r
  := Window.coverable_iff_region (isReserved_of_mem_requests h)

end Layout

/-- Windows are apart from each other just when their regions are. -/
theorem pairwise_apart_iff {requests : List (Window × Permissions)} {rs : List Region}
    (h : List.Forall₂ (fun request r => request.1.region request.2 = .ok r) requests rs) :
  (requests.Pairwise fun p q => p.1.Apart q.1) ↔ rs.Pairwise fun r s => r.overlaps s = false
  := by
  induction h with
  | nil => simp
  | @cons request r requests rs hfirst hrest ih =>
    have hothers : (∀ q ∈ requests, request.1.Apart q.1) ↔ ∀ s ∈ rs, r.overlaps s = false := by
      clear ih
      induction hrest with
      | nil => simp
      | cons hnext _ ih =>
        rw [List.forall_mem_cons, List.forall_mem_cons, ih, Window.apart_iff_overlaps hfirst hnext]
    rw [List.pairwise_cons, List.pairwise_cons, ih, hothers]

/-! ### Fencing a layout -/

/-- The regions fence the windows of a layout. -/
inductive Layout.Fenced : Layout → Windows → Prop where
  /-- Code may be read and executed, data may be read and written. -/
  | split {code data : Window} {peripheral : Option Window} {ws : Windows}
      (hcode : ws.code.Fences code .readExecute) (hdata : ws.data.Fences data .readWrite)
      (hperipheral : Option.Rel (fun w r => r.Fences w .readWrite) peripheral ws.peripheral)
      (hisolation : ws.isolation = .split) : Fenced (.split code data peripheral) ws
  /-- One region is used in any way. -/
  | combined {span : Window} {peripheral : Option Window} {ws : Windows}
      (hspan : ws.code.Fences span .all) (hsame : ws.data = ws.code)
      (hperipheral : Option.Rel (fun w r => r.Fences w .readWrite) peripheral ws.peripheral)
      (hisolation : ws.isolation = .degraded) : Fenced (.combined span peripheral) ws

theorem PeripheralRounded.fences {p : Option Window} {q : Option Region}
    (h : PeripheralRounded p q) :
  Option.Rel (fun w r => r.Fences w .readWrite) p q
  := by
  cases h with
  | absent => apply Option.Rel.none
  | present hregion => exact .some (Window.fences_of_region hregion)

theorem Layout.Rounded.fenced {l : Layout} {ws : Windows} (h : l.Rounded ws) :
  l.Fenced ws
  := by
  have hperipheral := h.peripheral.fences
  cases h.memory with
  | split hcode hdata _ hisolation =>
    apply Fenced.split (Window.fences_of_region hcode) (Window.fences_of_region hdata) hperipheral
      hisolation
  | combined hspan hsame hisolation =>
    apply Fenced.combined (Window.fences_of_region hspan) hsame hperipheral hisolation

/-- The addresses of a region. -/
def Region.span (r : Region) : Span := ⟨r.base.toNat, r.stop⟩

theorem Region.span_entry (r : Region) (previous : UInt32) :
  r.entry.span previous = some r.span
  := by
  rw [Entry.span, r.mode_entry]
  dsimp only
  rw [r.blockWindow_entry]
  rfl

/-- The two ranges have no address in common. -/
def Span.Apart (s t : Span) : Prop := ∀ a, ¬ (s.Holds a ∧ t.Holds a)

namespace Layout

/-- The plan of regions that fence a layout has one range for each of them, apart from the
others. -/
theorem Rounded.exists_plan {l : Layout} {ws : Windows} (h : l.Rounded ws) :
  ∃ plan, ws.plan = .ok plan
    ∧ (∀ previous, plan.entries.map (fun e => e.span previous)
      = ws.regions.map fun r => some r.span)
    ∧ (ws.regions.map Region.span).Pairwise Span.Apart
  := by
  obtain ⟨plan, hplan, hentries⟩ := ws.plan_eq_ok
  use plan, hplan
  constructor
  · intro previous
    rw [hentries, List.map_map]
    apply List.map_congr_left
    intro r _
    apply r.span_entry
  · rw [List.pairwise_map]
    apply h.pairwise_regions.imp
    intro r s hapart
    apply Region.overlaps_eq_false_iff.mp hapart

/-- The first window of a layout that has no block is refused for the given cause. -/
def FirstFault (l : Layout) (cause : EncodeError) : Prop :=
  ∃ before w rights after, l.requests = before ++ (w, rights) :: after
    ∧ (∀ request ∈ before, request.1.Coverable) ∧ ¬ w.Coverable
    ∧ Region.covering w.base w.length rights true = .error cause

theorem FirstFault.not_coverable {l : Layout} {cause : EncodeError} (h : l.FirstFault cause) :
  ¬ ∀ request ∈ l.requests, request.1.Coverable
  := by
  obtain ⟨before, w, rights, after, hrequests, -, hfault, -⟩ := h
  intro hall
  apply hfault
  apply hall (w, rights)
  rw [hrequests]
  apply List.mem_append_right _ List.mem_cons_self

/-- Either all windows are rounded, or the first one that cannot be covered is the fault. -/
theorem rounding_cases (l : Layout) :
  (∃ rs, l.rounding = .ok rs ∧ (∀ request ∈ l.requests, request.1.Coverable)
      ∧ ((l.requests.Pairwise fun p q => p.1.Apart q.1)
        ↔ rs.Pairwise fun r s => r.overlaps s = false))
    ∨ ∃ cause, l.rounding = .error (.encoding cause) ∧ l.FirstFault cause
  := by
  rcases forall₂_or_error_of_mapM (fun request => request.1.region request.2) l.requests with
    ⟨rs, hrounding, heach⟩ | ⟨before, ⟨w, rights⟩, after, e, hrequests, hbefore, hfault, hrounding⟩
  · left
    refine ⟨rs, hrounding, ?_, pairwise_apart_iff heach⟩
    intro request hrequest
    rw [coverable_iff_of_mem_requests hrequest]
    obtain ⟨i, hi, rfl⟩ := List.getElem_of_mem hrequest
    exact ⟨_, heach.get hi (heach.length_eq ▸ hi)⟩
  · right
    obtain ⟨cause, hcause, rfl⟩ := Window.covering_of_region_eq_error hfault
    have hmem : (w, rights) ∈ l.requests := by
      rw [hrequests]
      apply List.mem_append_right _ List.mem_cons_self
    refine ⟨cause, hrounding, before, w, rights, after, hrequests, ?_, ?_, hcause⟩
    · intro request hrequest
      rw [coverable_iff_of_mem_requests (l := l)]
      · apply hbefore request hrequest
      · rw [hrequests]
        apply List.mem_append_left _ hrequest
    · rw [coverable_iff_of_mem_requests hmem]
      rintro ⟨r, hr⟩
      rw [hfault] at hr
      cases hr

/-- A layout is given regions just when each of its windows has a least block and these blocks are
apart.  The regions are then the blocks, and their plan has one range for each of them, code
before data before the peripheral.  Else the layout is refused: because of the first window
without a block if there is one, and because blocks overlap if there is none. -/
theorem windows_fenceable (l : Layout) :
  ((∃ ws, l.windows = .ok ws)
      ↔ (∀ request ∈ l.requests, request.1.Coverable)
        ∧ l.requests.Pairwise fun p q => p.1.Apart q.1)
    ∧ (∀ ws, l.windows = .ok ws → l.Fenced ws ∧ ∃ plan, ws.plan = .ok plan
      ∧ (∀ previous, plan.entries.map (fun e => e.span previous)
        = ws.regions.map fun r => some r.span)
      ∧ (ws.regions.map Region.span).Pairwise Span.Apart)
    ∧ ∀ e, l.windows = .error e →
      (e = .overlap ↔ ∀ request ∈ l.requests, request.1.Coverable)
        ∧ (e ≠ .overlap → ∃ cause, l.FirstFault cause ∧ e = .encoding cause)
  := by
  have hok : ∀ ws, l.windows = .ok ws → l.Fenced ws ∧ ∃ plan, ws.plan = .ok plan
      ∧ (∀ previous, plan.entries.map (fun e => e.span previous)
        = ws.regions.map fun r => some r.span)
      ∧ (ws.regions.map Region.span).Pairwise Span.Apart := by
    intro ws hwindows
    have hrounded := rounded_of_windows hwindows
    exact ⟨hrounded.fenced, hrounded.exists_plan⟩
  have hnone : ∀ {e : ProtectionError}, ¬ ∃ ws : Windows, Except.error e = Except.ok ws := by
    rintro e ⟨_, ⟨⟩⟩
  rcases l.rounding_cases with ⟨rs, hrounding, hcoverable, hpairwise⟩ | ⟨cause, hrounding, hfault⟩
  · obtain ⟨haccepts, hrefuses⟩ := windows_of_rounding_eq_ok hrounding
    rw [hpairwise]
    by_cases hapart : rs.Pairwise fun r s => r.overlaps s = false
    · obtain ⟨ws, hwindows⟩ := haccepts hapart
      rw [hwindows] at hok ⊢
      exact ⟨iff_of_true ⟨ws, rfl⟩ ⟨hcoverable, hapart⟩, hok, nofun⟩
    · rw [hrefuses hapart] at hok ⊢
      refine ⟨iff_of_false hnone fun h => hapart h.2, hok, ?_⟩
      rintro _ ⟨⟩
      exact ⟨iff_of_true rfl hcoverable, fun h => absurd rfl h⟩
  · have hwindows := windows_of_rounding_eq_error hrounding
    rw [hwindows] at hok ⊢
    refine ⟨iff_of_false hnone fun h => hfault.not_coverable h.1, hok, ?_⟩
    rintro _ ⟨⟩
    exact ⟨iff_of_false (by rintro ⟨⟩) hfault.not_coverable, fun _ => ⟨cause, hfault, rfl⟩⟩

/-- Code of 6 KiB, with data right behind it. -/
def swallowing : Layout := .split ⟨0x80000000, 0x1800⟩ ⟨0x80001800, 0x800⟩ none

/-- Code at the end of the address space that is too long for it, and no data. -/
def overlong : Layout := .split ⟨0xFFFFF000, 0x2000⟩ ⟨0x80000000, 0⟩ none

/-- Windows far from each other are fenced.  A window that is rounded up swallows the one behind
it, though neither is at fault.  Of two faults the first is told. -/
theorem windows_fenceable_swallowing :
  (∃ ws, sample.windows = .ok ws ∧ sample.Fenced ws)
    ∧ (∀ request ∈ swallowing.requests, request.1.Coverable)
    ∧ ¬ (swallowing.requests.Pairwise fun p q => p.1.Apart q.1)
    ∧ overlong.FirstFault (.exceedsAddressSpace 0xFFFFF000 0x2000)
  := by
  refine ⟨?_, ?_⟩
  · obtain ⟨ws, hwindows⟩ : ∃ ws, sample.windows = .ok ws := ⟨_, rfl⟩
    use ws, hwindows
    apply ((windows_fenceable sample).2.1 ws hwindows).1
  · have hswallowed : swallowing.windows = .error .overlap := rfl
    obtain ⟨haccepted, -, hrefused⟩ := windows_fenceable swallowing
    have hcoverable := (hrefused _ hswallowed).1.mp rfl
    refine ⟨hcoverable, ?_, ?_⟩
    · intro hapart
      obtain ⟨ws, hwindows⟩ := haccepted.mpr ⟨hcoverable, hapart⟩
      rw [hswallowed] at hwindows
      cases hwindows
    · have hfault :
          overlong.windows = .error (.encoding (.exceedsAddressSpace 0xFFFFF000 0x2000)) :=
        rfl
      obtain ⟨cause, hfirst, hcause⟩ :=
        ((windows_fenceable overlong).2.2 _ hfault).2 (by decide)
      cases hcause
      apply hfirst

end Layout

end SandboxMonitor
