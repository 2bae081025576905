import Mathlib.Tactic.Use
import SandboxMonitor.Action.Basic

/-!
# Rules for actions

There are three ways to speak of what an action does.  `Action.Confined P E a` is a safety
statement: the action keeps `P` and records only events with `E`, also when it stops.
`Action.Gives filter s a v s'` says that the action returns: from `s` it answers `v` and
leaves `s'`.  `Action.StopsFor S a` says for which reasons the action does not return.  Each
comes with one rule for each way of building an action.
-/

namespace SandboxMonitor

/-- What an action leaves behind when some events come before its own. -/
def Outcome.prepend {σ α : Type} (events : List Event) (o : Outcome σ α) : Outcome σ α :=
  ⟨o.result, o.state, events ++ o.events⟩

namespace Action

variable {σ τ α β : Type}

/-! ### Sequences -/

theorem run_bind_assoc {γ : Type} (a : Action σ α) (next : α → Action σ β) (last : β → Action σ γ)
    (filter : LogFilter) (s : σ) :
  (a >>= next >>= last).run filter s = (a >>= fun v => next v >>= last).run filter s
  := by
  rw [run_bind, run_bind, run_bind]
  rcases a.run filter s with ⟨why | v, s', events⟩
  · rfl
  · dsimp only
    rw [run_bind]
    rcases (next v).run filter s' with ⟨why | w, s'', later⟩
    · rfl
    · dsimp only
      rw [List.append_assoc]

theorem run_bind_of_ok {a : Action σ α} {next : α → Action σ β} {filter : LogFilter}
    {s s' s'' : σ} {v : α} {result : Except Stop β} {events later : List Event}
    (ha : a.run filter s = ⟨.ok v, s', events⟩)
    (hnext : (next v).run filter s' = ⟨result, s'', later⟩) :
  (a >>= next).run filter s = ⟨result, s'', events ++ later⟩
  := by
  rw [run_bind, ha]
  dsimp only
  rw [hnext]

theorem run_bind_of_error {a : Action σ α} (next : α → Action σ β) {filter : LogFilter}
    {s s' : σ} {why : Stop} {events : List Event} (ha : a.run filter s = ⟨.error why, s', events⟩) :
  (a >>= next).run filter s = ⟨.error why, s', events⟩
  := by
  rw [run_bind, ha]

/-- A sequence that returns has run both of its actions. -/
theorem exists_of_run_bind_eq_ok {a : Action σ α} {next : α → Action σ β} {filter : LogFilter}
    {s s'' : σ} {w : β} {all : List Event} (h : (a >>= next).run filter s = ⟨.ok w, s'', all⟩) :
  ∃ v s' events later, a.run filter s = ⟨.ok v, s', events⟩
    ∧ (next v).run filter s' = ⟨.ok w, s'', later⟩ ∧ all = events ++ later
  := by
  rw [run_bind] at h
  rcases ha : a.run filter s with ⟨why | v, s', events⟩
  · rw [ha] at h
    cases h
  · rw [ha] at h
    dsimp only at h
    rcases hnext : (next v).run filter s' with ⟨result, t, later⟩
    rw [hnext] at h
    cases h
    exact ⟨v, s', events, later, rfl, hnext, rfl⟩

/-- What follows a look at the state gets what was seen. -/
theorem run_gets_bind (f : σ → α) (next : α → Action σ β) (filter : LogFilter) {s : σ} {v : α}
    (h : f s = v) :
  (gets f >>= next).run filter s = (next v).run filter s
  := by
  rw [← h]
  rfl

/-- It does not matter how a sequence is put together. -/
instance : LawfulMonad (Action σ) := .mk' _
  (by
    intro α a
    funext filter s
    change (a >>= fun v => pure v).run filter s = a.run filter s
    rw [run_bind]
    rcases a.run filter s with ⟨why | v, s', events⟩
    · rfl
    · simp only [run_pure, List.append_nil])
  (fun _ _ => rfl)
  (by
    intro α β γ a next last
    funext filter s
    apply run_bind_assoc)

theorem run_map_of_ok {a : Action σ α} {filter : LogFilter} {s s' : σ} {v : α}
    {events : List Event} (f : α → β) (h : a.run filter s = ⟨.ok v, s', events⟩) :
  (f <$> a).run filter s = ⟨.ok (f v), s', events⟩
  := by
  rw [map_eq_pure_bind, ← List.append_nil events]
  apply run_bind_of_ok h
  apply run_pure

theorem run_emit_bind (e : Event) (a : Action σ α) (filter : LogFilter) (s : σ) :
  (do emit e; a).run filter s = (a.run filter s).prepend [e]
  := rfl

/-! ### Confinement -/

/-- The action keeps `P` and records only events with `E`. -/
def Confined (P : σ → Prop) (E : Event → Prop) (a : Action σ α) : Prop :=
  ∀ filter s, P s → P (a.run filter s).state ∧ ∀ e ∈ (a.run filter s).events, E e

section Confined

variable {P : σ → Prop} {Q : τ → Prop} {E : Event → Prop}

theorem Confined.mono {E' : Event → Prop} {a : Action σ α} (ha : a.Confined P E)
    (h : ∀ e, E e → E' e) :
  a.Confined P E'
  := by
  intro filter s hs
  obtain ⟨hstate, hevents⟩ := ha filter s hs
  use hstate
  intro e he
  apply h e (hevents e he)

/-- What a run has kept so far, a confined action keeps. -/
theorem Confined.after {a : Action σ α} {next : α → Action σ β} {filter : LogFilter} {s : σ}
    (hstate : P (a.run filter s).state) (hevents : ∀ e ∈ (a.run filter s).events, E e)
    (hnext : ∀ v, (next v).Confined P E) :
  P ((a >>= next).run filter s).state ∧ ∀ e ∈ ((a >>= next).run filter s).events, E e
  := by
  rw [run_bind]
  rcases hrun : a.run filter s with ⟨result, s', events⟩
  rw [hrun] at hstate hevents
  cases result with
  | error why => use hstate
  | ok v =>
    obtain ⟨hstate, hlater⟩ := hnext v filter s' hstate
    use hstate
    apply List.forall_mem_append.mpr ⟨hevents, hlater⟩

/-- Two actions after one another are confined when the first is, and the second is whatever
the first answers. -/
theorem Confined.bind {a : Action σ α} {next : α → Action σ β} (ha : a.Confined P E)
    (hnext : ∀ v, (next v).Confined P E) :
  (a >>= next).Confined P E
  := by
  intro filter s hs
  obtain ⟨hstate, hevents⟩ := ha filter s hs
  apply Confined.after hstate hevents hnext

/-- What follows a look at the state may use that `P` holds. -/
theorem Confined.of_gets {f : σ → α} {next : α → Action σ β}
    (h : ∀ s, P s → (next (f s)).Confined P E) :
  (gets f >>= next).Confined P E
  := fun filter s hs => h s hs filter s hs

theorem Confined.of_state {next : σ → Action σ β} (h : ∀ s, P s → (next s).Confined P E) :
  (state >>= next).Confined P E
  := fun filter s hs => h s hs filter s hs

theorem confined_pure (v : α) :
  (pure v : Action σ α).Confined P E
  := by
  intro filter s hs
  use hs, List.forall_mem_nil E

theorem confined_stop (why : Stop) :
  (stop why : Action σ α).Confined P E
  := by
  intro filter s hs
  use hs, List.forall_mem_nil E

theorem confined_gets (f : σ → α) :
  (gets f).Confined P E
  := by
  intro filter s hs
  use hs, List.forall_mem_nil E

theorem confined_modify {f : σ → σ} (h : ∀ s, P s → P (f s)) :
  (modify f).Confined P E
  := by
  intro filter s hs
  use h s hs, List.forall_mem_nil E

theorem confined_emit {e : Event} (h : E e) :
  (emit e : Action σ Unit).Confined P E
  := by
  intro filter s hs
  use hs
  apply List.forall_mem_singleton.mpr h

theorem confined_keeps (level : LogLevel) :
  (keeps level : Action σ Bool).Confined P E
  := by
  intro filter s hs
  use hs, List.forall_mem_nil E

theorem confined_log (level : LogLevel) {message : String} (h : E (.log level message)) :
  (log level message : Action σ Unit).Confined P E
  := by
  intro filter s hs
  use hs
  rw [run_log]
  split
  · apply List.forall_mem_singleton.mpr h
  · apply List.forall_mem_nil

/-- An action on a part is confined when what it keeps of the part keeps `P` of the whole. -/
theorem Confined.on {split : σ → τ × (τ → σ)} {a : Action τ α} (ha : a.Confined Q E)
    (hpart : ∀ s, P s → Q (split s).1) (hwhole : ∀ s t, P s → Q t → P ((split s).2 t)) :
  (a.on split).Confined P E
  := by
  intro filter s hs
  obtain ⟨hstate, hevents⟩ := ha filter (split s).1 (hpart s hs)
  use hwhole s _ hs hstate, hevents

end Confined

/-! ### Returning -/

/-- From the state `s` the action answers `v` and leaves `s'`. -/
def Gives (filter : LogFilter) (s : σ) (a : Action σ α) (v : α) (s' : σ) : Prop :=
  (a.run filter s).result = .ok v ∧ (a.run filter s).state = s'

section Gives

variable {filter : LogFilter} {s s' : σ}

theorem gives_of_result_eq_ok {a : Action σ α} {v : α} (h : (a.run filter s).result = .ok v) :
  Gives filter s a v (a.run filter s).state
  := ⟨h, rfl⟩

theorem gives_of_run_eq {a : Action σ α} {v : α} {events : List Event}
    (h : a.run filter s = ⟨.ok v, s', events⟩) :
  Gives filter s a v s'
  := ⟨congrArg Outcome.result h, congrArg Outcome.state h⟩

/-- Two actions after one another return when both do. -/
theorem gives_bind {a : Action σ α} {next : α → Action σ β} {w : β} {s'' : σ} :
  Gives filter s (a >>= next) w s''
    ↔ ∃ v s', Gives filter s a v s' ∧ Gives filter s' (next v) w s''
  := by
  rw [Gives, run_bind]
  constructor
  · intro h
    rcases hrun : a.run filter s with ⟨result, s', events⟩
    rw [hrun] at h
    cases result with
    | error why => cases h.1
    | ok v =>
      use v, s'
      constructor
      · rw [Gives, hrun]
        exact ⟨rfl, rfl⟩
      · apply h
  · rintro ⟨v, s', hfirst, hnext⟩
    rcases hrun : a.run filter s with ⟨result, t, events⟩
    rw [Gives, hrun] at hfirst
    obtain ⟨rfl, rfl⟩ := hfirst
    apply hnext

@[simp]
theorem gives_pure {v w : α} :
  Gives filter s (pure v) w s' ↔ w = v ∧ s' = s
  := by
  simp [Gives, eq_comm]

@[simp]
theorem gives_stop {why : Stop} {v : α} :
  ¬ Gives filter s (stop why) v s'
  := by
  simp [Gives]

@[simp]
theorem gives_modify {f : σ → σ} {v : Unit} :
  Gives filter s (modify f) v s' ↔ s' = f s
  := by
  constructor
  · rintro ⟨-, rfl⟩
    rfl
  · rintro rfl
    exact ⟨rfl, rfl⟩

@[simp]
theorem gives_emit {e : Event} {v : Unit} :
  Gives filter s (emit e) v s' ↔ s' = s
  := by
  constructor
  · rintro ⟨-, rfl⟩
    rfl
  · rintro rfl
    exact ⟨rfl, rfl⟩

/-! What follows a step that always returns is run from the state that the step leaves. -/

@[simp]
theorem gives_gets_bind {f : σ → α} {next : α → Action σ β} {w : β} :
  Gives filter s (gets f >>= next) w s' ↔ Gives filter s (next (f s)) w s'
  := Iff.rfl

@[simp]
theorem gives_modify_bind {f : σ → σ} {next : Unit → Action σ β} {w : β} :
  Gives filter s (modify f >>= next) w s' ↔ Gives filter (f s) (next ()) w s'
  := Iff.rfl

@[simp]
theorem gives_emit_bind {e : Event} {next : Unit → Action σ β} {w : β} :
  Gives filter s (emit e >>= next) w s' ↔ Gives filter s (next ()) w s'
  := Iff.rfl

@[simp]
theorem gives_keeps_bind {level : LogLevel} {next : Bool → Action σ β} {w : β} :
  Gives filter s (keeps level >>= next) w s' ↔ Gives filter s (next (filter.keeps level)) w s'
  := Iff.rfl

@[simp]
theorem gives_log_bind {level : LogLevel} {message : String} {next : Unit → Action σ β}
    {w : β} :
  Gives filter s (log level message >>= next) w s' ↔ Gives filter s (next ()) w s'
  := Iff.rfl

/-- An action on a part returns when it returns from the part. -/
theorem gives_on {split : σ → τ × (τ → σ)} {a : Action τ α} {v : α} :
  Gives filter s (a.on split) v s'
    ↔ ∃ t, Gives filter (split s).1 a v t ∧ s' = (split s).2 t
  := by
  rw [Gives, run_on]
  constructor
  · rintro ⟨hresult, rfl⟩
    use (a.run filter (split s).1).state, ⟨hresult, rfl⟩
  · rintro ⟨t, ⟨hresult, rfl⟩, rfl⟩
    exact ⟨hresult, rfl⟩

end Gives

/-! ### Stopping -/

/-- An action that stops does so for a reason with `S`. -/
structure StopsFor (S : Stop → Prop) (a : Action σ α) : Prop where
  reason : ∀ filter s why, (a.run filter s).result = .error why → S why

section StopsFor

variable {S : Stop → Prop}

theorem StopsFor.bind {a : Action σ α} {next : α → Action σ β} (ha : a.StopsFor S)
    (hnext : ∀ v, (next v).StopsFor S) :
  (a >>= next).StopsFor S
  := by
  constructor
  intro filter s why h
  rw [run_bind] at h
  rcases hrun : a.run filter s with ⟨why' | v, s', events⟩
  · rw [hrun] at h
    cases h
    apply ha.reason filter s why
    rw [hrun]
  · rw [hrun] at h
    apply (hnext v).reason filter s' why h

theorem stopsFor_pure (v : α) :
  (pure v : Action σ α).StopsFor S
  := by
  constructor
  intro _ _ _ h
  cases h

theorem stopsFor_stop {why : Stop} (h : S why) :
  (stop why : Action σ α).StopsFor S
  := by
  constructor
  rintro _ _ _ ⟨⟩
  apply h

theorem stopsFor_gets (f : σ → α) :
  (gets f).StopsFor S
  := by
  constructor
  intro _ _ _ h
  cases h

theorem stopsFor_emit (e : Event) :
  (emit e : Action σ Unit).StopsFor S
  := by
  constructor
  intro _ _ _ h
  cases h

theorem stopsFor_keeps (level : LogLevel) :
  (keeps level : Action σ Bool).StopsFor S
  := by
  constructor
  intro _ _ _ h
  cases h

theorem stopsFor_log (level : LogLevel) (message : String) :
  (log level message : Action σ Unit).StopsFor S
  := by
  constructor
  intro _ _ _ h
  cases h

theorem StopsFor.on {a : Action τ α} (ha : a.StopsFor S) (split : σ → τ × (τ → σ)) :
  (a.on split).StopsFor S
  := ⟨fun filter s why h => ha.reason filter (split s).1 why h⟩

end StopsFor

end Action

end SandboxMonitor
