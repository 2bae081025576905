import SandboxMonitor.Proofs.Action.Rules
import SandboxMonitor.Proofs.Protection.Decoding
import SandboxMonitor.Proofs.Protection.Meaning

/-!
# Building a plan in place

`Plan.push` answers a whole plan or none.  A plan that is built in place gets its entries one
after the other, each of which may find no room, and what was stored before stays.  `Plan.carryOut`
makes a push like that.  A range asks for room for both its entries before it stores the first,
so the second always has room and the push does what `Plan.push` says (`Plan.run_carryOut`).

So pushes that are made one after the other, whatever becomes of each, leave the entries of those
that succeeded, and never half of a range (`Plan.building_atomic`).
-/

namespace SandboxMonitor

open SandboxMonitor.Action

namespace Push

/-- The push has an encoding. -/
def Encodable : Push → Prop
  | region _ => True
  | range start stop permissions _ =>
    start < stop ∧ start.toNat % 4 = 0 ∧ stop.toNat % 4 = 0
      ∧ ¬ (permissions.write = true ∧ permissions.read = false)

instance (w : Push) : Decidable w.Encodable :=
  match w with
  | region _ => inferInstanceAs (Decidable True)
  | range start stop permissions _ => inferInstanceAs (Decidable (start < stop
      ∧ start.toNat % 4 = 0 ∧ stop.toNat % 4 = 0
      ∧ ¬ (permissions.write = true ∧ permissions.read = false)))

/-- The number of entries that a push needs. -/
def width : Push → Nat
  | region _ => 1
  | range _ _ _ _ => 2

theorem exists_entries {w : Push} (h : w.Encodable) :
  ∃ es, w.entries = .ok es ∧ es.length = w.width
  := by
  cases w with
  | region r => exact ⟨[r.entry], rfl, rfl⟩
  | range start stop permissions locked =>
    obtain ⟨pair, hpair⟩ : ∃ pair, rangeEntries start stop permissions locked = .ok pair :=
      ⟨_, rangeEntries_eq_ok_iff.mpr ⟨h, rfl, rfl⟩⟩
    rw [entries, hpair]
    exact ⟨_, rfl, rfl⟩

/-- The pushes that were answered without an error. -/
def succeeded (ws : List Push) (answers : List (Except ProtectionError Unit)) : List Push :=
  (ws.zip answers).filterMap fun
    | (w, .ok ()) => some w
    | (_, .error _) => none

end Push

namespace Plan

/-! ### One entry after the other -/

/-- Stores an entry after those that are there, if there is room for one more. -/
def store (e : Entry) : Action Plan (Except ProtectionError Unit) := do
  let p ← .state
  if h : (p.entries ++ [e]).length ≤ capacity then
    .modify fun _ => ⟨p.entries ++ [e], h⟩
    return .ok ()
  else
    return .error (.tooManyEntries (capacity + 1) capacity)

/-- Stores entries one after the other, until one has no room. -/
def storeAll : List Entry → Action Plan (Except ProtectionError Unit)
  | [] => return .ok ()
  | e :: rest => do
    match ← store e with
    | .ok () => storeAll rest
    | .error refusal => return .error refusal

/-- Makes a push in place.  Before a range is stored, there has to be room for both its entries. -/
def carryOut : Push → Action Plan (Except ProtectionError Unit)
  | .region r => store r.entry
  | .range start stop permissions locked => do
    match rangeEntries start stop permissions locked with
    | .error cause => return .error (.encoding cause)
    | .ok (bottom, top) =>
      let size ← .gets Plan.size
      if capacity < size + 2 then return .error (.tooManyEntries (size + 2) capacity)
      else storeAll [bottom, top]

/-- What an attempt to change a plan comes to: the plan is the new one if there is one, and the
old one if there is none. -/
def settled (p : Plan) : Except ProtectionError Plan → Outcome Plan (Except ProtectionError Unit)
  | .ok q => ⟨.ok (.ok ()), q, []⟩
  | .error e => ⟨.ok (.error e), p, []⟩

theorem eq_of_entries {p q : Plan} (h : p.entries = q.entries) :
  p = q
  := by
  cases p
  cases q
  cases h
  rfl

theorem append_eq_error {p : Plan} {es : List Entry} (h : capacity < p.size + es.length) :
  p.append es = .error (.tooManyEntries (p.size + es.length) capacity)
  := by
  apply dif_neg
  rw [List.length_append, Nat.not_le]
  apply h

theorem run_store (filter : LogFilter) (p : Plan) (e : Entry) :
  (store e).run filter p = p.settled (p.append [e])
  := by
  rw [store, run_bind, run_state]
  dsimp only
  by_cases hroom : (p.entries ++ [e]).length ≤ capacity
  · rw [dif_pos hroom, append, dif_pos hroom]
    rfl
  · -- A plan without room for one entry is full.
    have hfull : p.size = capacity := by
      have hfits := p.fits
      rw [List.length_append, List.length_singleton] at hroom
      rw [size]
      omega
    rw [dif_neg hroom, append_eq_error (by rw [hfull]; apply Nat.lt_succ_self), hfull]
    rfl

/-- Entries that all have room are all stored. -/
theorem run_storeAll (filter : LogFilter) {p q : Plan} {es : List Entry}
    (h : p.append es = .ok q) :
  (storeAll es).run filter p = ⟨.ok (.ok ()), q, []⟩
  := by
  induction es generalizing p with
  | nil =>
    obtain ⟨hentries, -⟩ := append_eq_ok_iff.mp h
    rw [List.append_nil] at hentries
    rw [eq_of_entries hentries]
    rfl
  | cons e rest ih =>
    obtain ⟨hentries, hfits⟩ := append_eq_ok_iff.mp h
    rw [List.append_cons] at hentries hfits
    have hroom : (p.entries ++ [e]).length ≤ capacity := by
      rw [List.length_append] at hfits
      omega
    have hfirst : (store e).run filter p = ⟨.ok (.ok ()), ⟨p.entries ++ [e], hroom⟩, []⟩ := by
      rw [run_store, append, dif_pos hroom]
      rfl
    rw [storeAll, run_bind_of_ok hfirst (ih (append_eq_ok_iff.mpr ⟨hentries, hfits⟩))]
    rfl

/-- A push in place comes to what `push` says. -/
theorem run_carryOut (filter : LogFilter) (p : Plan) (w : Push) :
  (carryOut w).run filter p = p.settled (p.push w)
  := by
  cases w with
  | region r => apply run_store
  | range start stop permissions locked =>
    rw [carryOut, push, Push.entries]
    cases rangeEntries start stop permissions locked with
    | error cause => rfl
    | ok pair =>
      obtain ⟨bottom, top⟩ := pair
      change (gets Plan.size >>= fun size => _).run filter p = p.settled (p.append [bottom, top])
      rw [run_gets_bind _ _ _ rfl]
      by_cases hfull : capacity < p.size + 2
      · rw [if_pos hfull, append_eq_error hfull]
        rfl
      · have hfits : (p.entries ++ [bottom, top]).length ≤ capacity := by
          rw [List.length_append]
          apply Nat.le_of_not_lt hfull
        have happend : p.append [bottom, top] = .ok ⟨p.entries ++ [bottom, top], hfits⟩ :=
          dif_pos hfits
        rw [if_neg hfull, run_storeAll filter happend, happend]
        rfl

/-! ### Pushes one after the other -/

/-- Pushes in place always answer, and the plan is as if those that fail had not been made. -/
theorem run_mapM_carryOut (filter : LogFilter) (p : Plan) (ws : List Push) :
  ∃ answers, (ws.mapM carryOut).run filter p = ⟨.ok answers, ws.foldl add p, []⟩
    ∧ answers.length = ws.length ∧ Push.succeeded ws answers = p.accepted ws
  := by
  induction ws generalizing p with
  | nil => exact ⟨[], rfl, rfl, rfl⟩
  | cons w rest ih =>
    obtain ⟨answers, hrest, hlength, hsucceeded⟩ := ih (p.add w)
    have hfirst := run_carryOut filter p w
    rw [List.foldl_cons, accepted]
    rw [add] at hrest hsucceeded ⊢
    cases hpush : p.push w with
    | ok q =>
      rw [hpush] at hfirst hrest hsucceeded
      use .ok () :: answers
      rw [List.mapM_cons, run_bind_of_ok hfirst (run_bind_of_ok hrest rfl), List.length_cons,
        hlength]
      exact ⟨rfl, rfl, congrArg (w :: ·) hsucceeded⟩
    | error e =>
      rw [hpush] at hfirst hrest hsucceeded
      use .error e :: answers
      rw [List.mapM_cons, run_bind_of_ok hfirst (run_bind_of_ok hrest rfl), List.length_cons,
        hlength]
      exact ⟨rfl, rfl, hsucceeded⟩

/-- A push that has an encoding fails for want of room only. -/
theorem push_eq_error_iff {p : Plan} {w : Push} (h : w.Encodable) :
  (∃ e, p.push w = .error e) ↔ capacity < p.size + w.width
  := by
  obtain ⟨es, hentries, hwidth⟩ := Push.exists_entries h
  rw [push, hentries, ← hwidth]
  dsimp only
  constructor
  · rintro ⟨e, herror⟩
    by_contra hroom
    have hfits : (p.entries ++ es).length ≤ capacity := by
      rw [List.length_append]
      apply Nat.le_of_not_lt hroom
    cases herror.symm.trans (dif_pos hfits)
  · intro hfull
    exact ⟨_, append_eq_error hfull⟩

/-- Whatever pushes are made in place on an empty plan, its entries are those of the pushes that
succeeded, one after the other, and there are at most sixteen of them.  A further push that fails
changes nothing, and if it has an encoding it fails just when its entries have no room. -/
theorem building_atomic (filter : LogFilter) (ws : List Push) :
  ∃ answers plan, (ws.mapM carryOut).run filter empty = ⟨.ok answers, plan, []⟩
    ∧ answers.length = ws.length
    ∧ plan.entries = (Push.succeeded ws answers).flatMap Push.added
    ∧ (∀ w ∈ Push.succeeded ws answers, w.Encoded w.added)
    ∧ plan.entries.length ≤ 16
    ∧ ∀ w, ∃ answer plan', (carryOut w).run filter plan = ⟨.ok answer, plan', []⟩
      ∧ (∀ e, answer = .error e → plan' = plan)
      ∧ (w.Encodable → ((∃ e, answer = .error e) ↔ 16 < plan.entries.length + w.width))
  := by
  obtain ⟨answers, hrun, hlength, hsucceeded⟩ := run_mapM_carryOut filter empty ws
  refine ⟨answers, ofPushes ws, hrun, hlength, ?_, ?_, (ofPushes ws).fits, ?_⟩
  · rw [hsucceeded]
    apply entries_ofPushes
  · rw [hsucceeded]
    intro w
    apply encoded_of_mem_accepted
  · intro w
    rw [run_carryOut]
    cases hanswer : (ofPushes ws).push w with
    | ok q =>
      refine ⟨_, _, rfl, nofun, ?_⟩
      intro hw
      apply iff_of_false
      · rintro ⟨_, ⟨⟩⟩
      · intro hfull
        obtain ⟨e, herror⟩ := (push_eq_error_iff hw).mpr hfull
        rw [hanswer] at herror
        cases herror
    | error e =>
      refine ⟨_, _, rfl, fun _ _ => rfl, ?_⟩
      intro hw
      apply iff_of_true ⟨e, rfl⟩
      apply (push_eq_error_iff hw).mp ⟨e, hanswer⟩

/-- One of some ranges with gaps between them. -/
def gapped (index : UInt32) : Push :=
  .range (index * 0x100) (index * 0x100 + 0x80) ⟨true, false, false⟩ false

/-- A region of eight bytes. -/
def smallRegion : Push := .region ⟨0x1000, 8, .all, false, 3, by decide⟩

/-- A region and seven ranges leave room for one entry: another range fails and leaves no half of
itself behind, and another region succeeds. -/
theorem building_atomic_edge :
  ∃ answers plan,
    ((smallRegion :: [0, 1, 2, 3, 4, 5, 6].map gapped).mapM carryOut).run .off empty
        = ⟨.ok answers, plan, []⟩
      ∧ plan.entries.length = 15
      ∧ (∃ e, (carryOut (gapped 7)).run .off plan = ⟨.ok (.error e), plan, []⟩)
      ∧ ∃ plan', (carryOut smallRegion).run .off plan = ⟨.ok (.ok ()), plan', []⟩
  := by
  obtain ⟨answers, plan, hrun, -, -, -, -, hnext⟩ :=
    building_atomic .off (smallRegion :: [0, 1, 2, 3, 4, 5, 6].map gapped)
  have hsize : (((smallRegion :: [0, 1, 2, 3, 4, 5, 6].map gapped).mapM carryOut).run .off
      empty).state.entries.length = 15 := by
    decide +kernel
  rw [hrun] at hsize
  refine ⟨answers, plan, hrun, hsize, ?_, ?_⟩
  · obtain ⟨answer, plan', hrun, hkept, hfails⟩ := hnext (gapped 7)
    obtain ⟨e, rfl⟩ := (hfails (by decide)).mpr (by rw [hsize]; decide)
    rw [hkept e rfl] at hrun
    exact ⟨e, hrun⟩
  · obtain ⟨answer, plan', hrun, -, hfails⟩ := hnext smallRegion
    cases answer with
    | ok u => exact ⟨plan', hrun⟩
    | error e =>
      have hfull := (hfails trivial).mp ⟨e, rfl⟩
      rw [hsize] at hfull
      apply absurd hfull (by decide)

end Plan

end SandboxMonitor
