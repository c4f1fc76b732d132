/-!
# Methods

The verbs of the requests that are sent.
-/

namespace MigrationClient.Http

inductive Method where
  | get
  | post
  deriving DecidableEq, Repr

def Method.name : Method → String
  | get => "GET"
  | post => "POST"

end MigrationClient.Http
