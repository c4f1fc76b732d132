import MigrationClient.Http.Response
import MigrationClient.Url.Basic

/-!
# Faults of requests

Why no complete response came back, and the fault of a response that refuses the request.
-/

namespace MigrationClient.Http

open Text

/-- Why a request gave no complete response. -/
inductive Fault where
  | malformedUrl
  | unsupportedUrl (url : Url)
  | notSent (url : Url)
  | tooManyRedirects (url : Url)
  | incompleteBody
  deriving DecidableEq, Repr

def Fault.message : Fault → String
  | malformedUrl => "builder error"
  | unsupportedUrl url => s!"builder error for url ({url.toString})"
  | notSent url => s!"error sending request for url ({url.toString})"
  | tooManyRedirects url => s!"error following redirect for url ({url.toString})"
  | incompleteBody => "error decoding response body"

/-- A status that refuses the request: the reason as it was received, if it was not the standard
one, and the URL that was requested last. -/
structure Refusal where
  status : Status
  reason : Option String
  url : Url
  deriving DecidableEq, Repr

def Refusal.message (r : Refusal) : String :=
  let side := if r.status.isClientError then "client" else "server"
  let reason := r.reason.getD (r.status.reason?.getD "<unknown status code>")
  s!"HTTP status {side} error ({String.ofList (decimal r.status.code)} {reason}) for url ({r.url.toString})"

end MigrationClient.Http
