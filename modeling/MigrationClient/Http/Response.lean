import MigrationClient.Http.Header
import MigrationClient.Http.Status

/-!
# Responses

A response whose body has been read to its end, and the text it is shown as: the status line,
and below it the body unless its text is empty.
-/

namespace MigrationClient.Http

open Text

/-- A complete response. -/
structure Response where
  status : Status
  headers : List Header
  body : List UInt8
  deriving DecidableEq, Repr

namespace Response

def isSuccess (r : Response) : Bool := r.status.isSuccess

/-- The body as text, with U+FFFD for what is not well-formed. -/
def text (r : Response) : String := Utf8.toStringLossy r.body

/-- The response as it is shown. -/
def render (r : Response) : String :=
  let line := String.ofList r.status.line
  if r.text.isEmpty then line else line ++ "\n" ++ r.text

end Response

end MigrationClient.Http
