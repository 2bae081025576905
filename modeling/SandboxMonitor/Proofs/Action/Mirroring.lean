import SandboxMonitor.Action.Basic

/-!
# One action mirrored by another

An action on a state may do to `f s` what another action, on states of another type, does to
`s`: it answers the same, records the same events and leaves `f` of what the other leaves.
This is `Action.Mirrors f`, with one rule for each way of building an action.
-/

namespace SandboxMonitor

namespace Action

variable {σ τ ρ υ α β : Type} {f : σ → τ}

/-- What the first action does to a state, the second does to the image of the state. -/
def Mirrors (f : σ → τ) (a : Action σ α) (a' : Action τ α) : Prop :=
  ∀ filter s, a'.run filter (f s)
    = ⟨(a.run filter s).result, f (a.run filter s).state, (a.run filter s).events⟩

theorem mirrors_pure (v : α) :
  Mirrors f (pure v) (pure v)
  := fun _ _ => rfl

theorem mirrors_emit (e : Event) :
  Mirrors f (emit e) (emit e)
  := fun _ _ => rfl

theorem mirrors_log (level : LogLevel) (message : String) :
  Mirrors f (log level message) (log level message)
  := fun _ _ => rfl

theorem mirrors_gets {g : σ → α} {g' : τ → α} (h : ∀ s, g' (f s) = g s) :
  Mirrors f (gets g) (gets g')
  := by
  intro filter s
  rw [run_gets, run_gets, h]

theorem mirrors_modify {g : σ → σ} {g' : τ → τ} (h : ∀ s, g' (f s) = f (g s)) :
  Mirrors f (modify g) (modify g')
  := by
  intro filter s
  rw [run_modify, run_modify, h]

theorem Mirrors.bind {a : Action σ α} {a' : Action τ α} {next : α → Action σ β}
    {next' : α → Action τ β} (ha : Mirrors f a a') (hnext : ∀ v, Mirrors f (next v) (next' v)) :
  Mirrors f (a >>= next) (a' >>= next')
  := by
  intro filter s
  rw [run_bind, run_bind, ha filter s]
  rcases a.run filter s with ⟨result, s', events⟩
  cases result with
  | error why => rfl
  | ok v =>
    dsimp only
    rw [hnext v filter s']

theorem Mirrors.ite {condition : Prop} [Decidable condition] {a b : Action σ α}
    {a' b' : Action τ α} (ha : Mirrors f a a') (hb : Mirrors f b b') :
  Mirrors f (if condition then a else b) (if condition then a' else b')
  := by
  split
  · apply ha
  · apply hb

/-- What follows a look at the state has only to mirror from that state on. -/
theorem mirrors_state_bind {next : σ → Action σ α} {next' : τ → Action τ α}
    (h : ∀ s, Mirrors f (next s) (next' (f s))) :
  Mirrors f (state >>= next) (state >>= next')
  := by
  intro filter s
  rw [run_bind, run_bind, run_state, run_state]
  dsimp only
  rw [h s filter s]

/-- Actions on parts mirror each other when the parts correspond. -/
theorem Mirrors.on {g : ρ → υ} {split : σ → ρ × (ρ → σ)} {split' : τ → υ × (υ → τ)}
    {a : Action ρ α} {a' : Action υ α} (ha : Mirrors g a a')
    (hpart : ∀ s, (split' (f s)).1 = g (split s).1)
    (hwhole : ∀ s t, (split' (f s)).2 (g t) = f ((split s).2 t)) :
  Mirrors f (a.on split) (a'.on split')
  := by
  intro filter s
  rw [run_on, run_on, hpart, ha filter (split s).1, hwhole]

end Action

end SandboxMonitor
