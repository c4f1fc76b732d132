import MigrationClient.Client.Call

/-!
# Sessions

Any number of calls at one endpoint, at the same time. What one call does leaves the others as
they are; in which order their tasks run is not determined.
-/

namespace MigrationClient.Client

structure Session where
  endpoint : String
  calls : List Call

inductive Session.Event where
  | start (op : Operation)
  | act (call : Nat) (a : Action)
  deriving DecidableEq, Repr

namespace Session

def begin (endpoint : String) : Session := ⟨endpoint, []⟩

/-- The session after an event, if the event is possible; `results` tells what the request of
each call comes to. -/
def step? (results : Nat → Performance) (s : Session) : Event → Option Session
  | .start op => some { s with calls := s.calls ++ [Call.start s.endpoint op] }
  | .act i a =>
    match s.calls[i]? with
    | none => none
    | some c => (c.step? (results i) a).map fun d => { s with calls := s.calls.set i d }

/-- The session after some events. -/
def run? (results : Nat → Performance) (s : Session) (es : List Event) : Option Session :=
  es.foldlM (step? results) s

end Session

end MigrationClient.Client
