import MigrationClient.Http.Header
import MigrationClient.Http.Method
import MigrationClient.Text.Base64
import MigrationClient.Url.Requestable

/-!
# Requests

A request as it is sent: a verb, the URL without its fragment, and a few headers. None has a body.
-/

namespace MigrationClient.Http

open Text

structure Request where
  method : Method
  target : Url
  headers : List Header
  deriving DecidableEq, Repr

/-- A header with text for its name and its value. -/
def Header.ofText (name : String) (value : List Char) : Header :=
  ⟨Utf8.ofString name, Utf8.encode value⟩

/-- A user's name and password in clear. -/
abbrev Login := List Char × Option (List Char)

/-- The value of the header that carries a login. -/
def authorization (login : Login) : List Char :=
  "Basic ".toList ++ Base64.encode (Utf8.encode (login.1 ++ ':' :: login.2.getD []))

/-- The host and the port as they are named in a request. -/
def hostText (u : Url) : List Char :=
  (u.withoutCredentials.authority.map Url.Authority.toText).getD []

/-- A request with a login and the URL that led to it, if any. -/
def Request.make (method : Method) (url : Url) (login : Option Login) (referer : Option Url) :
    Request where
  method
  target := url.withoutFragment
  headers := Header.sort <|
    [Header.ofText "accept" "*/*".toList, .ofText "host" (hostText url)] ++
    (login.map fun l => Header.ofText "authorization" (authorization l)).toList ++
    (referer.map fun u => Header.ofText "referer" u.withoutCredentials.withoutFragment.toText).toList

end MigrationClient.Http
