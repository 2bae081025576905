import SandboxMonitor.Machine.Script

/-!
# The inference engine

A `Model` answers an input with scores, or fails.  An `Engine` has a script of models and
runs the next one on each call.
-/

namespace SandboxMonitor

/-- Why a model gives no scores. -/
inductive InferenceError where
  | invalidInput
  | status (code : Int)
deriving DecidableEq

/-- The text of an inference error. -/
def InferenceError.message : InferenceError → String
  | invalidInput => "invalid model input"
  | status code => "engine status " ++ toString code

/-- The scores of an input. -/
abbrev Model := List UInt8 → Except InferenceError (List Int8)

namespace Model

/-- The model that gives every input the same scores. -/
def constant (scores : List Int8) : Model := fun _ => .ok scores

/-- The model whose scores are the bytes of the input. -/
def echo : Model := fun input => .ok (input.map UInt8.toInt8)

/-- The model that always fails. -/
def failing (e : InferenceError) : Model := fun _ => .error e

end Model

/-- The models to run, in turn. -/
structure Engine where
  models : Script Model

namespace Engine

/-- The model to run next; an engine that never had one gives no scores. -/
def model (e : Engine) : Model := e.models.head (.constant [])

/-- The engine after a call. -/
def advance (e : Engine) : Engine := ⟨e.models.advance⟩

end Engine

end SandboxMonitor
