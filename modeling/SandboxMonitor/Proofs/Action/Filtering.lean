import Mathlib.Tactic.Use
import SandboxMonitor.Proofs.Action.Rules

/-!
# Actions under two log filters

Two outcomes agree when they have the same result, related states, and the same events among
those that are compared.  Two actions agree under two log filters when their outcomes do, the
first being run under the one filter and the second under the other (`Action.Agree`).  There is
one rule for each way of building an action, and one for an action that only one side takes
(`Action.Unseen`).  An action that agrees with itself is indifferent to what is logged
(`Action.Indifferent`).
-/

namespace SandboxMonitor

variable {σ τ α β : Type} {shown : Event → Bool} {R : σ → σ → Prop}

/-- The outcomes differ only in events that are not shown, and their states are related. -/
structure Outcome.Agree (shown : Event → Bool) (R : σ → σ → Prop) (o o' : Outcome σ α) :
    Prop where
  result : o'.result = o.result
  state : R o.state o'.state
  events : o'.events.filter shown = o.events.filter shown

/-- Outcomes that agree still do when less is shown and more states are related. -/
theorem Outcome.Agree.mono {shown' : Event → Bool} {R' : σ → σ → Prop} {o o' : Outcome σ α}
    (h : o.Agree shown R o') (hshown : ∀ e, shown' e = true → shown e = true)
    (hR : ∀ s t, R s t → R' s t) :
  o.Agree shown' R' o'
  := by
  have hless : ∀ events : List Event,
      events.filter shown' = (events.filter shown).filter shown' := by
    intro events
    rw [List.filter_filter]
    apply List.filter_congr
    intro e _
    cases hshows : shown' e with
    | true => rw [hshown e hshows, Bool.true_and]
    | false => rfl
  constructor
  · apply h.result
  · apply hR _ _ h.state
  · rw [hless, hless o.events, h.events]

namespace Action

variable {f g : LogFilter}

/-- From related states, the first action under the first filter and the second action under the
second filter agree. -/
def Agree (f g : LogFilter) (shown : Event → Bool) (R : σ → σ → Prop) (a b : Action σ α) : Prop :=
  ∀ s t, R s t → (a.run f s).Agree shown R (b.run g t)

/-- From related states, the action agrees with itself under two filters. -/
abbrev Indifferent (f g : LogFilter) (shown : Event → Bool) (R : σ → σ → Prop) (a : Action σ α) :
    Prop :=
  Agree f g shown R a a

theorem Agree.symm {a b : Action σ α} (h : Agree f g shown R a b)
    (hR : ∀ s t, R s t → R t s) :
  Agree g f shown R b a
  := by
  intro s t hst
  obtain ⟨hresult, hstate, hevents⟩ := h t s (hR s t hst)
  use hresult.symm, hR _ _ hstate, hevents.symm

/-- Sequences agree when their parts do. -/
theorem Agree.bind {a b : Action σ α} {next next' : α → Action σ β}
    (hfirst : Agree f g shown R a b) (hnext : ∀ v, Agree f g shown R (next v) (next' v)) :
  Agree f g shown R (a >>= next) (b >>= next')
  := by
  intro s t hst
  have hagree := hfirst s t hst
  rw [run_bind, run_bind]
  rcases ha : a.run f s with ⟨result, s', events⟩
  rcases hb : b.run g t with ⟨result', t', events'⟩
  rw [ha, hb] at hagree
  obtain ⟨hresult, hstate, hevents⟩ := hagree
  change result' = result at hresult
  subst hresult
  cases result' with
  | error why => use rfl, hstate
  | ok v =>
    obtain ⟨hresult, hstate, hlater⟩ := hnext v s' t' hstate
    use hresult, hstate
    rw [List.filter_append, List.filter_append, hevents, hlater]

/-- What follows a look at the states may use what is seen of both. -/
theorem Agree.of_gets {look : σ → α} {next next' : α → Action σ β}
    (hsame : ∀ s t, R s t → look t = look s)
    (hnext : ∀ s t, R s t → Agree f g shown R (next (look s)) (next' (look s))) :
  Agree f g shown R (gets look >>= next) (gets look >>= next')
  := by
  intro s t hst
  rw [run_gets_bind look next f rfl, run_gets_bind look next' g (hsame s t hst)]
  apply hnext s t hst s t hst

theorem agree_pure (v : α) :
  Agree f g shown R (pure v) (pure v)
  := by
  intro s t hst
  exact ⟨rfl, hst, rfl⟩

theorem agree_stop (why : Stop) :
  Agree f g shown R (stop why : Action σ α) (stop why)
  := by
  intro s t hst
  exact ⟨rfl, hst, rfl⟩

theorem agree_modify {change : σ → σ} (h : ∀ s t, R s t → R (change s) (change t)) :
  Agree f g shown R (modify change) (modify change)
  := by
  intro s t hst
  exact ⟨rfl, h s t hst, rfl⟩

theorem agree_emit (e : Event) :
  Agree f g shown R (emit e) (emit e)
  := by
  intro s t hst
  exact ⟨rfl, hst, rfl⟩

theorem agree_keeps {level : LogLevel} (h : g.keeps level = f.keeps level) :
  Agree f g shown R (keeps level : Action σ Bool) (keeps level)
  := by
  intro s t hst
  rw [run_keeps, run_keeps, h]
  exact ⟨rfl, hst, rfl⟩

/-- What follows a look at the filter of one side sees what that filter keeps. -/
theorem Agree.keeps_bind {level : LogLevel} {next : Bool → Action σ β} {b : Action σ β}
    (h : Agree f g shown R (next (f.keeps level)) b) :
  Agree f g shown R (keeps level >>= next) b
  := h

/-- What a log keeps is not seen when log records are not shown. -/
theorem filter_log {level : LogLevel} {message : String}
    (h : shown (.log level message) = false) (kept : Bool) :
  (if kept then [Event.log level message] else []).filter shown = []
  := by
  cases kept with
  | true => rw [if_pos rfl, List.filter_cons_of_neg (by rw [h]; decide), List.filter_nil]
  | false => rfl

theorem agree_log (level : LogLevel) {message : String}
    (h : shown (.log level message) = false) :
  Agree f g shown R (log level message) (log level message)
  := by
  intro s t hst
  use rfl, hst
  rw [run_log, run_log, filter_log h, filter_log h]

/-- Actions on a part agree when they do on related parts. -/
theorem Agree.on {R' : τ → τ → Prop} {split : σ → τ × (τ → σ)} {a b : Action τ α}
    (h : Agree f g shown R' a b) (hpart : ∀ s t, R s t → R' (split s).1 (split t).1)
    (hwhole : ∀ s t u v, R s t → R' u v → R ((split s).2 u) ((split t).2 v)) :
  Agree f g shown R (a.on split) (b.on split)
  := by
  intro s t hst
  obtain ⟨hresult, hstate, hevents⟩ := h _ _ (hpart s t hst)
  use hresult, hwhole s t _ _ hst hstate, hevents

/-- From equal states, actions on a part agree when they do from equal parts. -/
theorem Agree.on_eq {a b : Action τ α} (h : Agree f g shown Eq a b) (split : σ → τ × (τ → σ)) :
  Agree f g shown Eq (a.on split) (b.on split)
  := by
  apply h.on
  · rintro s _ rfl
    rfl
  · rintro s _ u _ rfl rfl
    rfl

/-- An action that takes no notice of the filter does the same under two of them. -/
theorem agree_of_run_eq {a : Action σ α} (h : ∀ s, a.run g s = a.run f s) :
  Agree f g shown Eq a a
  := by
  rintro s _ rfl
  rw [h]
  use rfl, rfl

theorem agree_state :
  Agree f g shown Eq (state : Action σ σ) state
  := agree_of_run_eq fun _ => rfl

theorem agree_change (change : σ → σ) :
  Agree f g shown Eq (modify change) (modify change)
  := agree_of_run_eq fun _ => rfl

/-- The action returns, and what it does can neither be seen nor told from its state. -/
def Unseen (f : LogFilter) (shown : Event → Bool) (R : σ → σ → Prop) (a : Action σ α) : Prop :=
  ∀ s, ∃ v s' events, a.run f s = ⟨.ok v, s', events⟩ ∧ (∀ t, R s t → R s' t)
    ∧ events.filter shown = []

/-- Only one side takes an action that is not seen. -/
theorem Unseen.agree_bind {a : Action σ α} {next : α → Action σ β} {b : Action σ β}
    (ha : a.Unseen f shown R) (hnext : ∀ v, Agree f g shown R (next v) b) :
  Agree f g shown R (a >>= next) b
  := by
  intro s t hst
  obtain ⟨v, s', events, hrun, hstate, hhidden⟩ := ha s
  obtain ⟨hresult, hstate, hevents⟩ := hnext v s' t (hstate t hst)
  rw [run_bind, hrun]
  use hresult, hstate
  rw [List.filter_append, hhidden, List.nil_append, hevents]

theorem unseen_log (level : LogLevel) {message : String}
    (h : shown (.log level message) = false) :
  (log level message : Action σ Unit).Unseen f shown R
  := by
  intro s
  exact ⟨(), s, _, rfl, fun _ hst => hst, filter_log h _⟩

/-- An action on a part is not seen when it is not seen on the part. -/
theorem Unseen.on {R' : τ → τ → Prop} {split : σ → τ × (τ → σ)} {a : Action τ α}
    (h : a.Unseen f shown R') (hpart : ∀ s t, R s t → R' (split s).1 (split t).1)
    (hwhole : ∀ s t u, R s t → R' u (split t).1 → R ((split s).2 u) t) :
  (a.on split).Unseen f shown R
  := by
  intro s
  obtain ⟨v, u, events, hrun, hstate, hhidden⟩ := h (split s).1
  refine ⟨v, (split s).2 u, events, ?_, ?_, hhidden⟩
  · rw [run_on, hrun]
  · intro t hst
    apply hwhole s t u hst (hstate _ (hpart s t hst))

end Action

end SandboxMonitor
