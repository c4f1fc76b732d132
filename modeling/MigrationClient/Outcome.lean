import MigrationClient.Error

/-!
# Outcomes

What a finished operation hands on: an error, a response, or both. The exit code of a run tells
which of them there was.
-/

namespace MigrationClient

structure Outcome where
  error : Option Error
  response : Option Http.Response
  deriving DecidableEq, Repr

namespace Outcome

/-- The outcome of a result. A refused request has an error and a response. -/
def ofResult : Except Error Http.Response → Outcome
  | .ok r => ⟨none, some r⟩
  | .error e => ⟨some e, e.response?⟩

/-- An outcome tells which result it came from. -/
theorem ofResult_inj {x y : Except Error Http.Response} : ofResult x = ofResult y ↔ x = y := by
  cases x <;> cases y <;> simp +contextual [ofResult]

/-- The error of a result carries the response that is handed on beside it. -/
theorem response?_of_error {x : Except Error Http.Response} {e : Error}
    (h : (ofResult x).error = some e) : e.response? = (ofResult x).response := by
  cases x with
  | ok r => cases h
  | error f =>
    cases h
    rfl

/-- No error counts as success, also without a response; an error with a response is told apart
from one without. -/
def exitCode (o : Outcome) : Nat :=
  match o.error, o.response with
  | none, _ => 0
  | some _, some _ => 1
  | some _, none => 2

/-- The response as it is shown. -/
def render (o : Outcome) : Option String := o.response.map (·.render)

end Outcome

end MigrationClient
