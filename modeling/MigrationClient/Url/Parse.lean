import MigrationClient.Text.Blank
import MigrationClient.Url.Path

/-!
# Reading URLs

A text is cleaned, and then cut into scheme, authority, path, query and fragment, each of which
is read for itself: what a part holds never changes where another part ends.
-/

namespace MigrationClient.Url

open Text

/-! ## Cutting -/

/-- Controls and the space, which are cut off at both ends of a URL. -/
def isEdge (c : Char) : Bool := c.toNat ≤ 0x20

/-- Characters that are taken out wherever they stand. -/
def isDropped (c : Char) : Bool := c = '\t' || c = '\n' || c = '\r'

/-- The text that is read: without edges and without dropped characters. -/
def clean (s : List Char) : List Char := (trimBy isEdge s).filter (!isDropped ·)

/-- A character of a scheme after the first. -/
def isSchemeChar (c : Char) : Bool := c.isAlphanum || c = '+' || c = '-' || c = '.'

/-- The scheme in lower case and what follows its colon. -/
def splitScheme? (s : List Char) : Option (List Char × List Char) :=
  if s.head?.any Char.isAlpha then
    match s.dropWhile isSchemeChar with
    | ':' :: r => some ((s.takeWhile isSchemeChar).map Char.toLower, r)
    | _ => none
  else none

/-- A character that ends the authority. -/
def endsAuthority (kind : SchemeKind) (c : Char) : Bool :=
  c = '/' || c = '?' || c = '#' || (kind.isSpecial && c = '\\')

/-- A character that ends the path. -/
def endsPath (c : Char) : Bool := c = '?' || c = '#'

/-- The path, the query and the fragment as they are written. -/
structure Tail where
  path : List Char
  query : Option (List Char)
  fragment : Option (List Char)

def Tail.ofText (s : List Char) : Tail :=
  let (before, fragment) : List Char × Option (List Char) :=
    match cut? (· == '#') s with
    | some (a, b) => (a, some b)
    | none => (s, none)
  match cut? (· == '?') before with
  | some (path, query) => ⟨path, some query, fragment⟩
  | none => ⟨before, none, fragment⟩

def encodeQuery (kind : SchemeKind) (s : List Char) : String :=
  String.ofList
    (Percent.encode (if kind.isSpecial then Percent.inSpecialQuery else Percent.inQuery) s)

def encodeFragment (s : List Char) : String :=
  String.ofList (Percent.encode Percent.inFragment s)

/-! ## The authority -/

/-- The user's name and password before the `@`. A lone colon is no password. -/
def Credentials.ofText? (s : List Char) : Option Credentials :=
  let (name, password) : List Char × Option (List Char) :=
    match cut? (· == ':') s with
    | some (a, b) => (a, if b.isEmpty then none else some b)
    | none => (s, none)
  let encode := fun t => String.ofList (Percent.encode Percent.inUserinfo t)
  if name.isEmpty && password.isNone then none
  else some ⟨encode name, password.map encode⟩

/-- Where the host ends: at the first colon outside brackets. -/
def splitPort (inBrackets : Bool) : List Char → List Char × Option (List Char)
  | [] => ([], none)
  | c :: r =>
    if c = ':' ∧ !inBrackets then ([], some r)
    else
      let (host, port) := splitPort (if c = '[' then true else if c = ']' then false else inBrackets) r
      (c :: host, port)

/-- The number of a port, of which none may be given. -/
def readPort (s : List Char) : Except ParseError (Option Nat) :=
  if s.isEmpty then .ok none
  else
    match value? 10 s with
    | some n => if n < 65536 then .ok (some n) else .error .invalidPort
    | none => .error .invalidPort

/-- What is written before and after the last `@`. -/
def splitUser (s : List Char) : Option (List Char) × List Char :=
  match cutLast? (· == '@') s with
  | some (user, rest) => (some user, rest)
  | none => (none, s)

/-- The authority and what follows it. A backslash after a port ends the authority also where it
is no separator. -/
def splitAuthority (kind : SchemeKind) (s : List Char) : List Char × List Char :=
  let text := s.takeWhile (!endsAuthority kind ·)
  let rest := s.dropWhile (!endsAuthority kind ·)
  match kind with
  | .other =>
    let port := (splitPort false (splitUser text).2).2.getD []
    let beyond := port.dropWhile (· ≠ '\\')
    (text.take (text.length - beyond.length), beyond ++ rest)
  | _ => (text, rest)

/-- The host, which only an unknown scheme lets be empty, and then without a port. -/
def readHost (kind : SchemeKind) (s : List Char) (hasPort : Bool) :
    Except ParseError (Option Host) :=
  match kind with
  | .other =>
    match Host.other s with
    | .ok none => if hasPort then .error .emptyHost else .ok none
    | r => r
  | _ => if s.isEmpty then .error .emptyHost else (Host.special s).map some

/-- The authority of a URL whose scheme is not that of files. The text ends where the authority
does, and `atEnd` says that nothing follows it. -/
def Authority.ofText (scheme : List Char) (s : List Char) (atEnd : Bool) :
    Except ParseError Authority := do
  let kind := SchemeKind.ofScheme scheme
  let (user, rest) := splitUser s
  if user = some [] ∧ rest.isEmpty ∧ !atEnd then
    throw .emptyHost
  let credentials := user.bind Credentials.ofText?
  let (hostText, portText) := splitPort false rest
  let host ← readHost kind hostText portText.isSome
  let port ← readPort (portText.getD [])
  if host.isNone ∧ credentials.isSome then
    throw .emptyHost
  return ⟨credentials, host, port.filter fun p => defaultPort? scheme ≠ some p⟩

/-! ## Whole URLs -/

/-- The URL with an authority, for the text after the two slashes. -/
def afterSlashes (scheme : List Char) (s : List Char) : Except ParseError Url := do
  let kind := SchemeKind.ofScheme scheme
  let (authorityText, rest) := splitAuthority kind s
  let authority ← Authority.ofText scheme authorityText rest.isEmpty
  let tail := Tail.ofText rest
  return {
    scheme := String.ofList scheme
    authority := some authority
    path := Path.ofAuthority kind tail.path
    query := tail.query.map (encodeQuery kind)
    fragment := tail.fragment.map encodeFragment }

/-- The URL of a file, for the text after the scheme. A host that is a drive begins the path, and
a path that begins with a drive has no host. -/
def fileUrl (s : List Char) : Except ParseError Url := do
  let isSlash := fun c : Char => c = '/' || c = '\\'
  let (hostText, rest) : List Char × List Char :=
    match s with
    | a :: b :: r =>
      if isSlash a && isSlash b then
        let host := r.takeWhile (!endsAuthority .file ·)
        if Path.isDrive host then ([], r) else (host, r.dropWhile (!endsAuthority .file ·))
      else ([], s)
    | _ => ([], s)
  let host ← if hostText.isEmpty then pure none else (Host.special hostText).map some
  let host := host.filter (· ≠ .domain "localhost")
  let tail := Tail.ofText rest
  let path := Path.ofAuthority .file tail.path
  let host :=
    match path with
    | .segments (first :: _) => if Path.isDrive first.toList then none else host
    | _ => host
  return {
    scheme := "file"
    authority := some ⟨none, host, none⟩
    path
    query := tail.query.map (encodeQuery .file)
    fragment := tail.fragment.map encodeFragment }

/-- The URL with a scheme, for the text after the colon. -/
def withScheme (scheme : List Char) (s : List Char) : Except ParseError Url :=
  match SchemeKind.ofScheme scheme with
  | .web => afterSlashes scheme (s.dropWhile fun c => c = '/' || c = '\\')
  | .file => fileUrl s
  | .other =>
    match after? ['/', '/'] s with
    | some r => afterSlashes scheme r
    | none =>
      let tail := Tail.ofText s
      .ok {
        scheme := String.ofList scheme
        authority := none
        path := Path.ofRest tail.path
        query := tail.query.map (encodeQuery .other)
        fragment := tail.fragment.map encodeFragment }

/-- The URL that a text spells. -/
def parse (text : String) : Except ParseError Url :=
  match splitScheme? (clean text.toList) with
  | some (scheme, rest) => withScheme scheme rest
  | none => .error .relativeWithoutBase

end MigrationClient.Url
