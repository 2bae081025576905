import SandboxMonitor.Proofs.Protection.Isolation

/-!
# What a plan means

A plan is made by pushes, each of which names a window and the rights on it.  The meaning of
the plan is that the first window with a byte decides about the byte.  The hart knows nothing
of windows: it asks one entry after the other, and a top of range starts where the address
register below it says.

`Push.find?_matchesAt` says that the entries of one push together match what its window holds.
So a bank that holds the entries of some pushes, and nothing else that is enabled, decides as
the pushes say (`ProtectionBank.userMay_of_holdsOnly`), and so does a bank on which the plan of
the pushes was installed (`RegisterBank.enforced_install`).
-/

namespace SandboxMonitor

/-! ### The window of a push -/

namespace Push

/-- Whether the window of a push has a byte address. -/
def Holds : Push → Nat → Prop
  | region r, a => r.Holds a
  | range start stop _ _, a => start.toNat ≤ a ∧ a < stop.toNat

instance (w : Push) (a : Nat) : Decidable (w.Holds a) :=
  match w with
  | region r => inferInstanceAs (Decidable (r.base.toNat ≤ a ∧ a < r.stop))
  | range start stop _ _ => inferInstanceAs (Decidable (start.toNat ≤ a ∧ a < stop.toNat))

/-- The rights that a push grants. -/
def permissions : Push → Permissions
  | region r => r.permissions
  | range _ _ permissions _ => permissions

/-- The entries that a push adds, if it has an encoding. -/
def added (w : Push) : List Entry :=
  match w.entries with
  | .ok es => es
  | .error _ => []

/-- How a push that has an encoding is encoded. -/
inductive Encoded : Push → List Entry → Prop where
  | region (r : Region) : Encoded (.region r) [r.entry]
  | range {start stop : UInt32} {permissions : Permissions} {locked : Bool}
    (hstart : start.toNat % 4 = 0) (hstop : stop.toNat % 4 = 0) :
    Encoded (.range start stop permissions locked)
      [.off (start >>> 2), .ofFields .topOfRange permissions locked (stop >>> 2)]

theorem encoded_of_entries_eq_ok {w : Push} {es : List Entry} (h : w.entries = .ok es) :
  w.Encoded es
  := by
  cases w with
  | region r =>
    cases h
    apply Encoded.region
  | range start stop permissions locked =>
    rw [entries, rangeEntries] at h
    split at h
    · cases h
    split at h
    · cases h
    rename_i hstart
    split at h
    · cases h
    rename_i hstop
    split at h
    · cases h
    cases h
    rw [ne_eq, not_not, mod_four_eq_zero_iff] at hstart hstop
    apply Encoded.range hstart hstop

end Push

/-! ### Plans made by pushes -/

namespace Plan

/-- The plan after a push, which is the same when the push fails. -/
def add (p : Plan) (w : Push) : Plan :=
  match p.push w with
  | .ok q => q
  | .error _ => p

/-- The plan that pushes make. -/
def ofPushes (ws : List Push) : Plan := ws.foldl add empty

/-- The pushes that do not fail when all are made one after the other. -/
def accepted (p : Plan) : List Push → List Push
  | [] => []
  | w :: rest =>
    match p.push w with
    | .ok q => w :: accepted q rest
    | .error _ => accepted p rest

theorem push_eq_ok {p q : Plan} {w : Push} (h : p.push w = .ok q) :
  q.entries = p.entries ++ w.added ∧ w.Encoded w.added
  := by
  unfold push at h
  split at h
  · cases h
  · rename_i added hadded
    have heq : w.added = added := by rw [Push.added, hadded]
    rw [heq]
    exact ⟨(append_eq_ok_iff.mp h).1, Push.encoded_of_entries_eq_ok hadded⟩

/-- A plan made by pushes has the entries of the pushes that did not fail, in their order. -/
theorem entries_foldl_add (p : Plan) (ws : List Push) :
  (ws.foldl add p).entries = p.entries ++ (p.accepted ws).flatMap Push.added
  := by
  induction ws generalizing p with
  | nil => exact (List.append_nil _).symm
  | cons w rest ih =>
    rw [List.foldl_cons, ih, add, accepted]
    cases hpush : p.push w with
    | error e => rfl
    | ok q =>
      dsimp only
      rw [(push_eq_ok hpush).1, List.flatMap_cons, List.append_assoc]

theorem entries_ofPushes (ws : List Push) :
  (ofPushes ws).entries = (empty.accepted ws).flatMap Push.added
  := entries_foldl_add empty ws

theorem encoded_of_mem_accepted {p : Plan} {ws : List Push} {w : Push} (h : w ∈ p.accepted ws) :
  w.Encoded w.added
  := by
  induction ws generalizing p with
  | nil => cases h
  | cons first rest ih =>
    rw [accepted] at h
    split at h
    · rename_i q hpush
      cases h with
      | head => apply (push_eq_ok hpush).2
      | tail _ hrest => apply ih hrest
    · apply ih h

end Plan

/-! ### Deciding by entries and deciding by windows -/

namespace ProtectionBank

variable {B : Type} [ProtectionBank B] {b : B}

/-- The entries of a bank from an index on are those of a list. -/
def HeldFrom (b : B) (first : Nat) (es : List Entry) : Prop :=
  ∀ i (h : i < es.length), entry b (first + i) = es[i]

theorem HeldFrom.left {first : Nat} {es es' : List Entry} (h : HeldFrom b first (es ++ es')) :
  HeldFrom b first es
  := by
  intro i hi
  rw [h i (by rw [List.length_append]; omega), List.getElem_append_left hi]

theorem HeldFrom.right {first : Nat} {es es' : List Entry} (h : HeldFrom b first (es ++ es')) :
  HeldFrom b (first + es.length) es'
  := by
  intro i hi
  rw [Nat.add_assoc, h (es.length + i) (by rw [List.length_append]; omega),
    List.getElem_append_right (Nat.le_add_right _ _)]
  simp

/-- The rights of the first entry, from an index on, that matches a byte address. -/
def granted? (b : B) (a first count : Nat) : Option Permissions :=
  ((List.range' first count).find? fun index => MatchesAt b a index).map fun index =>
    (entry b index).permissions

theorem granted?_add (a first count count' : Nat) :
  granted? b a first (count + count')
    = (granted? b a first count).or (granted? b a (first + count) count')
  := by
  rw [granted?, ← List.range'_append_1, List.find?_append, Option.map_or]
  rfl

theorem granted?_one (a first : Nat) :
  granted? b a first 1
    = if MatchesAt b a first then some (entry b first).permissions else none
  := by
  rw [granted?, List.range'_one, List.find?_cons]
  split <;> simp_all

theorem granted?_eq_none {a first count : Nat}
    (hoff : ∀ index, first ≤ index → index < first + count → (entry b index).mode = .off) :
  granted? b a first count = none
  := by
  rw [granted?, Option.map_eq_none_iff, List.find?_eq_none]
  intro index hindex
  rw [List.mem_range'_1] at hindex
  have hmode := hoff index hindex.1 hindex.2
  rw [decide_eq_true_eq]
  apply Entry.not_matches_of_off hmode

theorem userMay_eq_true_iff {kind : AccessKind} {a : Nat} :
  userMay b kind a = true
    ↔ ∃ rights, granted? b a 0 (entryCount b) = some rights ∧ rights.allows kind = true
  := by
  rw [userMay, granted?, decider?, List.range_eq_range']
  cases (List.range' 0 (entryCount b)).find? fun index => MatchesAt b a index with
  | none => simp
  | some index => simp

/-- The two entries of a range: the lower one matches nothing, the upper one the range. -/
theorem matchesAt_range {first a : Nat} {start stop : UInt32} {permissions : Permissions}
    {locked : Bool} (hstart : start.toNat % 4 = 0) (hstop : stop.toNat % 4 = 0)
    (hheld : HeldFrom b first
      [.off (start >>> 2), .ofFields .topOfRange permissions locked (stop >>> 2)]) :
  ¬ MatchesAt b a first ∧ (MatchesAt b a (first + 1) ↔ start.toNat ≤ a ∧ a < stop.toNat)
  := by
  have hbottom : entry b first = .off (start >>> 2) := hheld 0 (Nat.zero_lt_succ _)
  have htop : entry b (first + 1) = .ofFields .topOfRange permissions locked (stop >>> 2) :=
    hheld 1 (Nat.lt_succ_self _)
  constructor
  · rw [MatchesAt, hbottom]
    apply Entry.not_matches_of_off
    simp [Entry.off, Entry.mode, AddressMode.ofCode]
  · rw [MatchesAt, previousAddr, hbottom, htop, Entry.Matches, Entry.mode_ofFields]
    change 4 * (start >>> 2).toNat ≤ a ∧ a < 4 * (stop >>> 2).toNat ↔ _
    rw [toNat_shiftRight_two, toNat_shiftRight_two]
    omega

/-- The entries of a push match the window of the push, with its rights. -/
theorem granted?_encoded {w : Push} {es : List Entry} (h : w.Encoded es) {first : Nat}
    (hheld : HeldFrom b first es) (a : Nat) :
  granted? b a first es.length = if w.Holds a then some w.permissions else none
  := by
  cases h with
  | region r =>
    have hentry : entry b first = r.entry := hheld 0 (Nat.zero_lt_succ _)
    have hmatches : MatchesAt b a first ↔ (Push.region r).Holds a := by
      rw [MatchesAt, hentry, Region.matches_entry_iff]
      rfl
    rw [List.length_singleton, granted?_one, hentry, Region.permissions_entry]
    apply if_congr hmatches rfl rfl
  | @range start stop permissions locked hstart hstop =>
    obtain ⟨hbottom, htop⟩ := matchesAt_range (a := a) hstart hstop hheld
    have hentry : entry b (first + 1) = .ofFields .topOfRange permissions locked (stop >>> 2) :=
      hheld 1 (Nat.lt_succ_self _)
    change granted? b a first (1 + 1) = _
    rw [granted?_add, granted?_one, granted?_one, if_neg hbottom, Option.none_or, hentry,
      Entry.permissions_ofFields]
    apply if_congr htop rfl rfl

/-- The entries of pushes, one after the other, match the first window with a byte. -/
theorem granted?_flatMap {ws : List Push} (hencoded : ∀ w ∈ ws, w.Encoded w.added) {first : Nat}
    (hheld : HeldFrom b first (ws.flatMap Push.added)) (a : Nat) :
  granted? b a first (ws.flatMap Push.added).length
    = (ws.find? fun w => w.Holds a).map Push.permissions
  := by
  induction ws generalizing first with
  | nil => rfl
  | cons w rest ih =>
    rw [List.flatMap_cons] at hheld ⊢
    rw [List.length_append, granted?_add,
      granted?_encoded (hencoded w List.mem_cons_self) hheld.left,
      ih (fun v hv => hencoded v (List.mem_cons_of_mem w hv)) hheld.right, List.find?_cons]
    by_cases hholds : w.Holds a
    · simp [hholds]
    · simp [hholds]

/-- A bank with the entries of pushes, and nothing else that is enabled, grants what the first
window with a byte grants. -/
theorem userMay_of_holdsOnly {ws : List Push} (hencoded : ∀ w ∈ ws, w.Encoded w.added)
    (h : HoldsOnly b (ws.flatMap Push.added)) (kind : AccessKind) (a : Nat) :
  userMay b kind a = true
    ↔ ∃ w, ws.find? (fun w => w.Holds a) = some w ∧ w.permissions.allows kind = true
  := by
  have hheld : HeldFrom b 0 (ws.flatMap Push.added) := by
    intro i hi
    rw [Nat.zero_add]
    apply h.held i hi
  have hgranted : granted? b a 0 (entryCount b)
      = (ws.find? fun w => w.Holds a).map Push.permissions := by
    rw [← Nat.add_sub_of_le h.fits, granted?_add, granted?_flatMap hencoded hheld,
      granted?_eq_none, Option.or_none]
    intro index hlo hhi
    rw [Nat.zero_add] at hlo
    apply h.off index hlo (by have hfits := h.fits; omega)
  rw [userMay_eq_true_iff, hgranted]
  simp [Option.map_eq_some_iff]

end ProtectionBank

/-! ### Installing a plan made by pushes -/

namespace RegisterBank

open ProtectionBank

variable {filter : LogFilter}

/-- Where only locks stop a write, and what is locked is off, an installed plan is enforced as
it was meant: user mode may do what the first window with a byte grants.  A range matches
exactly its addresses, wherever it stands, and the entry below it matches nothing. -/
theorem enforced_install {b : RegisterBank} (hlocks : b.LocksOnly)
    (hcount : b.entryCount ≤ Plan.capacity)
    (hoff : ∀ i < b.entryCount, (b.entries i).isLocked = true → (b.entries i).mode = .off)
    (pushes : List Push)
    (h : ((install (Plan.ofPushes pushes)).run filter b).result = .ok (.ok ())) :
  (∀ kind a, userMay ((install (Plan.ofPushes pushes)).run filter b).state kind a = true
      ↔ ∃ w, (Plan.empty.accepted pushes).find? (fun w => w.Holds a) = some w
        ∧ w.permissions.allows kind = true)
    ∧ ∀ before start stop permissions locked after,
      Plan.empty.accepted pushes = before ++ .range start stop permissions locked :: after →
      ∀ a, ¬ MatchesAt ((install (Plan.ofPushes pushes)).run filter b).state a
          (before.flatMap Push.added).length
        ∧ (MatchesAt ((install (Plan.ofPushes pushes)).run filter b).state a
            ((before.flatMap Push.added).length + 1)
          ↔ start.toNat ≤ a ∧ a < stop.toNat)
  := by
  have honly := holdsOnly_install hlocks hcount hoff h
  rw [Plan.entries_ofPushes] at honly
  have hencoded : ∀ w ∈ Plan.empty.accepted pushes, w.Encoded w.added :=
    fun w hw => Plan.encoded_of_mem_accepted hw
  constructor
  · intro kind a
    apply userMay_of_holdsOnly hencoded honly
  · intro before start stop permissions locked after haccepted a
    rw [haccepted] at honly hencoded
    rw [List.flatMap_append, List.flatMap_cons] at honly
    have hboth : HeldFrom ((install (Plan.ofPushes pushes)).run filter b).state
        (before.flatMap Push.added).length
        ((Push.range start stop permissions locked).added ++ after.flatMap Push.added) := by
      intro i hi
      rw [honly.held _ (by rw [List.length_append]; omega), List.getElem_append_right]
      · simp
      · apply Nat.le_add_right
    have hheld := hboth.left
    have hrange := hencoded (.range start stop permissions locked) (by simp)
    generalize hadded : (Push.range start stop permissions locked).added = added at hheld hrange
    cases hrange with
    | range hstart hstop => apply matchesAt_range hstart hstop hheld

/-- A locked range that ends inside a region, a push that is misaligned, the region, and one more
range. -/
def overlapping : List Push :=
  [.range 0x7FFFF000 0x80000FF0 .readExecute true, .range 0x80000FF3 0x80001000 .all false,
    .region ⟨0x80000000, 0x1000, .readWrite, false, 12, by decide⟩,
    .range 0x10000000 0x10000104 .readWrite true]

/-- Where the locked range and the region overlap, the range comes first. -/
theorem enforced_install_overlapping :
  ((install (Plan.ofPushes overlapping)).run .off stale).result = .ok (.ok ())
    ∧ userMay ((install (Plan.ofPushes overlapping)).run .off stale).state .write 0x80000FEF = false
    ∧ userMay ((install (Plan.ofPushes overlapping)).run .off stale).state .write 0x80000FF0 = true
    ∧ ∀ a, MatchesAt ((install (Plan.ofPushes overlapping)).run .off stale).state a 4
      ↔ 0x10000000 ≤ a ∧ a < 0x10000104
  := by
  have hlocks : stale.LocksOnly := ⟨rfl, rfl, rfl⟩
  have h : ((install (Plan.ofPushes overlapping)).run .off stale).result = .ok (.ok ()) := rfl
  obtain ⟨hmay, hrange⟩ := enforced_install hlocks (by decide) (by decide) overlapping h
  refine ⟨h, ?_, ?_, ?_⟩
  · rw [Bool.eq_false_iff, Ne, hmay]
    rintro ⟨w, hw, hallows⟩
    cases hw
    cases hallows
  · rw [hmay]
    exact ⟨_, rfl, rfl⟩
  · intro a
    apply (hrange (overlapping.take 1 ++ [overlapping[2]]) _ _ _ _ [] rfl a).2

end RegisterBank

end SandboxMonitor
