import MigrationClient.Url.Host

/-!
# URLs

The parts of a URL, each already in its normal, percent-encoded form, and the text they make up.
-/

namespace MigrationClient

open Text

namespace Url

/-- The kinds of schemes. Those of the web have a host and a path that is a hierarchy; files have
such a path; of any other scheme nothing is known. -/
inductive SchemeKind where
  | web | file | other
  deriving DecidableEq, Repr

def SchemeKind.ofScheme (scheme : List Char) : SchemeKind :=
  match String.ofList scheme with
  | "http" | "https" | "ws" | "wss" | "ftp" => web
  | "file" => file
  | _ => other

/-- Whether the scheme is one that the standard knows. -/
def SchemeKind.isSpecial : SchemeKind → Bool
  | other => false
  | _ => true

/-- The port that a scheme uses when none is given. -/
def defaultPort? (scheme : List Char) : Option Nat :=
  match String.ofList scheme with
  | "http" | "ws" => some 80
  | "https" | "wss" => some 443
  | "ftp" => some 21
  | _ => none

/-- A path: segments, each after a slash, or a text that has no segments. -/
inductive Path where
  | segments (parts : List String)
  | plain (text : String)
  deriving DecidableEq, Repr

/-- The user's name and password, as they stand before the host. -/
structure Credentials where
  username : String
  password : Option String
  deriving DecidableEq, Repr

/-- What stands between the two slashes and the path. -/
structure Authority where
  credentials : Option Credentials
  host : Option Host
  port : Option Nat
  deriving DecidableEq, Repr

end Url

structure Url where
  scheme : String
  authority : Option Url.Authority
  path : Url.Path
  query : Option String
  fragment : Option String
  deriving DecidableEq, Repr

namespace Url

def host? (u : Url) : Option Host := u.authority.bind (·.host)

def credentials? (u : Url) : Option Credentials := u.authority.bind (·.credentials)

/-- The port that is connected to. -/
def port? (u : Url) : Option Nat :=
  (u.authority.bind (·.port)).or (defaultPort? u.scheme.toList)

/-! ## Texts -/

def Credentials.toText (c : Credentials) : List Char :=
  c.username.toList ++ (c.password.map fun p => ':' :: p.toList).getD [] ++ ['@']

def Authority.toText (a : Authority) : List Char :=
  (a.credentials.map Credentials.toText).getD [] ++ (a.host.map Host.toText).getD [] ++
    (a.port.map fun p => ':' :: decimal p).getD []

def Path.toText : Path → List Char
  | segments parts => parts.flatMap fun s => '/' :: s.toList
  | plain text => text.toList

/-- A path that begins with two slashes is kept apart from an authority by a segment `.`. -/
def Path.guardText : Option Authority → Path → List Char
  | none, .segments ("" :: _ :: _) => ['/', '.']
  | _, _ => []

/-- The scheme and what belongs to it up to the path. -/
def headText (u : Url) : List Char :=
  u.scheme.toList ++ ':' :: (u.authority.map fun a => '/' :: '/' :: a.toText).getD []

def queryText (u : Url) : List Char := (u.query.map fun q => '?' :: q.toList).getD []

def fragmentText (u : Url) : List Char := (u.fragment.map fun f => '#' :: f.toList).getD []

def toText (u : Url) : List Char :=
  u.headText ++ Path.guardText u.authority u.path ++ u.path.toText ++ u.queryText ++
    u.fragmentText

def toString (u : Url) : String := String.ofList u.toText

def withoutFragment (u : Url) : Url := { u with fragment := none }

def withoutCredentials (u : Url) : Url :=
  { u with authority := u.authority.map fun a => { a with credentials := none } }

end Url

end MigrationClient
