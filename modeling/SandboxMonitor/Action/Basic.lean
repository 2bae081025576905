import SandboxMonitor.Action.Event

/-!
# Actions

An `Action σ α` reads and changes a state of type `σ`, records events and answers a value of
type `α`, unless it stops for good.  Log records are events too; which of them are kept is
decided by the filter that the action runs under.  Actions form a monad: the events of a
sequence are those of its parts, in order.  `Action.on` runs an action on a part of the
state.
-/

namespace SandboxMonitor

/-- Why an action does not return. -/
inductive Stop where
  /-- An access lies outside every segment of memory. -/
  | memoryFault (addr : UInt32) (length : Nat)
  /-- The serial line is waiting for a byte that does not come. -/
  | idle
  /-- The hart was halted. -/
  | halted
  /-- The hart goes on with code that is not known. -/
  | astray
deriving DecidableEq

/-- What an action leaves behind. -/
structure Outcome (σ α : Type) where
  result : Except Stop α
  state : σ
  events : List Event

/-- A step of the program on a state of type `σ`, under a log filter. -/
def Action (σ α : Type) : Type := LogFilter → σ → Outcome σ α

namespace Action

variable {σ τ α β : Type}

/-- Runs an action under a log filter from a state. -/
def run (a : Action σ α) (filter : LogFilter) (s : σ) : Outcome σ α := a filter s

/-- The action that does nothing and answers a value. -/
def done (v : α) : Action σ α := fun _ s => ⟨.ok v, s, []⟩

/-- One action and then another that may depend on its answer. -/
def andThen (a : Action σ α) (next : α → Action σ β) : Action σ β := fun filter s =>
  match a filter s with
  | ⟨.ok v, s', events⟩ =>
    match next v filter s' with
    | ⟨r, s'', later⟩ => ⟨r, s'', events ++ later⟩
  | ⟨.error why, s', events⟩ => ⟨.error why, s', events⟩

instance : Monad (Action σ) where
  pure := done
  bind := andThen

/-- Stops for good. -/
def stop (why : Stop) : Action σ α := fun _ s => ⟨.error why, s, []⟩

/-- Answers the state. -/
def state : Action σ σ := fun _ s => ⟨.ok s, s, []⟩

/-- Answers what a function makes of the state. -/
def gets (f : σ → α) : Action σ α := fun _ s => ⟨.ok (f s), s, []⟩

/-- Changes the state. -/
def modify (f : σ → σ) : Action σ Unit := fun _ s => ⟨.ok (), f s, []⟩

/-- Records an event. -/
def emit (e : Event) : Action σ Unit := fun _ s => ⟨.ok (), s, [e]⟩

/-- Answers whether log records of a level are kept. -/
def keeps (level : LogLevel) : Action σ Bool := fun filter s => ⟨.ok (filter.keeps level), s, []⟩

/-- Records a log message if the filter keeps its level. -/
def log (level : LogLevel) (message : String) : Action σ Unit := fun filter s =>
  ⟨.ok (), s, if filter.keeps level then [.log level message] else []⟩

/-- Runs an action on a part of the state; `split` takes the part out and says how a new one
is put in its place. -/
def on (split : σ → τ × (τ → σ)) (a : Action τ α) : Action σ α := fun filter s =>
  match split s with
  | (t, putBack) =>
    match a filter t with
    | ⟨r, t', events⟩ => ⟨r, putBack t', events⟩

/-- Runs an action and answers also when it stops. -/
def attempt (a : Action σ α) : Action σ (Except Stop α) := fun filter s =>
  match a filter s with
  | ⟨r, s', events⟩ => ⟨.ok r, s', events⟩

/-! ### What each action leaves behind -/

@[simp]
theorem run_pure (v : α) (filter : LogFilter) (s : σ) :
  (pure v : Action σ α).run filter s = ⟨.ok v, s, []⟩
  := rfl

theorem run_bind (a : Action σ α) (next : α → Action σ β) (filter : LogFilter) (s : σ) :
  (a >>= next).run filter s
    = match a.run filter s with
      | ⟨.ok v, s', events⟩ =>
        match (next v).run filter s' with
        | ⟨r, s'', later⟩ => ⟨r, s'', events ++ later⟩
      | ⟨.error why, s', events⟩ => ⟨.error why, s', events⟩
  := rfl

@[simp]
theorem run_stop (why : Stop) (filter : LogFilter) (s : σ) :
  (stop why : Action σ α).run filter s = ⟨.error why, s, []⟩
  := rfl

@[simp]
theorem run_state (filter : LogFilter) (s : σ) :
  (state : Action σ σ).run filter s = ⟨.ok s, s, []⟩
  := rfl

@[simp]
theorem run_gets (f : σ → α) (filter : LogFilter) (s : σ) :
  (gets f).run filter s = ⟨.ok (f s), s, []⟩
  := rfl

@[simp]
theorem run_modify (f : σ → σ) (filter : LogFilter) (s : σ) :
  (modify f).run filter s = ⟨.ok (), f s, []⟩
  := rfl

@[simp]
theorem run_emit (e : Event) (filter : LogFilter) (s : σ) :
  (emit e : Action σ Unit).run filter s = ⟨.ok (), s, [e]⟩
  := rfl

@[simp]
theorem run_keeps (level : LogLevel) (filter : LogFilter) (s : σ) :
  (keeps level : Action σ Bool).run filter s = ⟨.ok (filter.keeps level), s, []⟩
  := rfl

@[simp]
theorem run_log (level : LogLevel) (message : String) (filter : LogFilter) (s : σ) :
  (log level message : Action σ Unit).run filter s
    = ⟨.ok (), s, if filter.keeps level then [.log level message] else []⟩
  := rfl

theorem run_on (split : σ → τ × (τ → σ)) (a : Action τ α) (filter : LogFilter) (s : σ) :
  (a.on split).run filter s
    = ⟨(a.run filter (split s).1).result,
        (split s).2 (a.run filter (split s).1).state,
        (a.run filter (split s).1).events⟩
  := rfl

theorem run_attempt (a : Action σ α) (filter : LogFilter) (s : σ) :
  a.attempt.run filter s
    = ⟨.ok (a.run filter s).result, (a.run filter s).state, (a.run filter s).events⟩
  := rfl

end Action

end SandboxMonitor
