import Mathlib.Tactic.Use
import SandboxMonitor.Action.Basic

/-!
# Actions that cannot tell states apart

From two related states a uniform action does the same: it answers the same or stops for the
same reason, records the same events and leaves related states.  `Action.Uniform R Q` takes
states related by `R` to states related by `Q`, with one rule for each way of building an
action.
-/

namespace SandboxMonitor

namespace Action

variable {σ τ α β : Type} {R Q T : σ → σ → Prop}

/-- From states related by `R` the action does the same and leaves states related by `Q`. -/
def Uniform (R Q : σ → σ → Prop) (a : Action σ α) : Prop :=
  ∀ filter s t, R s t → ∃ result events s' t', a.run filter s = ⟨result, s', events⟩
    ∧ a.run filter t = ⟨result, t', events⟩ ∧ Q s' t'

theorem Uniform.mono {a : Action σ α} (ha : a.Uniform R Q) (h : ∀ s t, Q s t → T s t) :
  a.Uniform R T
  := by
  intro filter s t hst
  obtain ⟨result, events, s', t', hs, ht, hst'⟩ := ha filter s t hst
  use result, events, s', t', hs, ht, h s' t' hst'

/-- A sequence is uniform when its actions are, and when it does no harm to stop after the first
of them. -/
theorem Uniform.andThen {a : Action σ α} {next : α → Action σ β} (ha : a.Uniform R Q)
    (hnext : ∀ v, (next v).Uniform Q T) (hstop : ∀ s t, Q s t → T s t) :
  (a >>= next).Uniform R T
  := by
  intro filter s t hst
  obtain ⟨result, events, s', t', hs, ht, hst'⟩ := ha filter s t hst
  rw [run_bind, run_bind, hs, ht]
  cases result with
  | error why => use .error why, events, s', t', rfl, rfl, hstop s' t' hst'
  | ok v =>
    obtain ⟨result, later, s'', t'', hs', ht', hst''⟩ := hnext v filter s' t' hst'
    dsimp only
    rw [hs', ht']
    use result, events ++ later, s'', t'', rfl, rfl, hst''

theorem Uniform.bind {a : Action σ α} {next : α → Action σ β} (ha : a.Uniform R R)
    (hnext : ∀ v, (next v).Uniform R R) :
  (a >>= next).Uniform R R
  := ha.andThen hnext fun _ _ h => h

/-- What follows a look at the state may use what has been seen. -/
theorem Uniform.of_gets {f : σ → α} {next : α → Action σ β} (hsame : ∀ s t, R s t → f t = f s)
    (hnext : ∀ s t, R s t → (next (f s)).Uniform R Q) :
  (gets f >>= next).Uniform R Q
  := by
  intro filter s t hst
  rw [run_bind, run_bind, run_gets, run_gets, hsame s t hst]
  apply hnext s t hst filter s t hst

theorem uniform_pure (v : α) :
  (pure v : Action σ α).Uniform R R
  := fun _ s t h => ⟨.ok v, [], s, t, rfl, rfl, h⟩

theorem uniform_stop (why : Stop) :
  (stop why : Action σ α).Uniform R R
  := fun _ s t h => ⟨.error why, [], s, t, rfl, rfl, h⟩

theorem uniform_modify {f : σ → σ} (h : ∀ s t, R s t → Q (f s) (f t)) :
  (modify f).Uniform R Q
  := fun _ s t hst => ⟨.ok (), [], f s, f t, rfl, rfl, h s t hst⟩

theorem uniform_emit (e : Event) :
  (emit e : Action σ Unit).Uniform R R
  := fun _ s t h => ⟨.ok (), [e], s, t, rfl, rfl, h⟩

theorem uniform_keeps (level : LogLevel) :
  (keeps level : Action σ Bool).Uniform R R
  := fun filter s t h => ⟨.ok (filter.keeps level), [], s, t, rfl, rfl, h⟩

theorem uniform_log (level : LogLevel) (message : String) :
  (log level message : Action σ Unit).Uniform R R
  := fun _ s t h => ⟨.ok (), _, s, t, rfl, rfl, h⟩

/-- Every action does the same from the same state. -/
theorem uniform_eq (a : Action σ α) :
  a.Uniform Eq Eq
  := by
  rintro filter s _ rfl
  exact ⟨_, _, _, _, rfl, rfl, rfl⟩

/-- An action on a part is uniform when the parts are related. -/
theorem Uniform.on {R' Q' : τ → τ → Prop} {split : σ → τ × (τ → σ)} {a : Action τ α}
    (ha : a.Uniform R' Q') (hpart : ∀ s t, R s t → R' (split s).1 (split t).1)
    (hwhole : ∀ s t u v, R s t → Q' u v → Q ((split s).2 u) ((split t).2 v)) :
  (a.on split).Uniform R Q
  := by
  intro filter s t hst
  obtain ⟨result, events, u, v, hs, ht, huv⟩ := ha filter _ _ (hpart s t hst)
  rw [run_on, run_on, hs, ht]
  use result, events, (split s).2 u, (split t).2 v, rfl, rfl, hwhole s t u v hst huv

end Action

end SandboxMonitor
