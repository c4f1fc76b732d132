import MigrationClient.Text.Utf8
import MigrationClient.Url.Basic

/-!
# URLs that can be requested

Only a URL of the schemes `http` and `https` can be requested, and only if what is connected to
can be written in a request. Credentials do not stay in the URL. A redirect can name URLs of other
schemes as well, though not all of them; what it names on the web can be requested
(`isRequestable_of_named?`).
-/

namespace MigrationClient.Url

open Text

/-- The schemes that can be requested. -/
def isHttp (u : Url) : Bool := u.scheme = "http" || u.scheme = "https"

/-- A character that a host may hold but a request cannot name. -/
def isUnrequestable (c : Char) : Bool := c ∈ ['"', '`', '\x7b', '\x7d']

/-- The length of the longest URL that a request can name. -/
def maxRequestLength : Nat := 65534

/-- Whether a request can name the URL. -/
def isRequestable (u : Url) : Bool :=
  u.isHttp && u.host?.isSome && !((u.host?.map Host.toText).getD []).any isUnrequestable &&
    u.toText.length ≤ maxRequestLength

/-! ## URLs that a redirect names -/

/-- The length of the longest scheme that a redirect can name, if it is none of the web. -/
def maxSchemeLength : Nat := 64

/-- A character that is no mark in an authority. -/
def isAuthorityChar (c : Char) : Bool :=
  c.isAlphanum ||
    c ∈ ['!', '$', '&', '\'', '(', ')', '*', '+', ',', '-', '.', ';', '=', '_', '~']

/-- The most colons between two marks of an authority. -/
def maxColons : Nat := 8

/-- What has been read of an authority: the colons and whether there was a percent sign since the
last mark, and which brackets there were. -/
structure AuthorityScan where
  colons : Nat
  escaped : Bool
  opened : Bool
  closed : Bool
  deriving DecidableEq, Repr

/-- What has been read after one character more, if that may stand there. -/
def AuthorityScan.next? (s : AuthorityScan) (c : Char) : Option AuthorityScan :=
  if c = ':' then if s.colons < maxColons then some { s with colons := s.colons + 1 } else none
  else if c = '%' then some { s with escaped := true }
  else if c = '@' then some { s with colons := 0, escaped := false }
  else if c = '[' then if s.escaped || s.opened then none else some { s with opened := true }
  else if c = ']' then
    if s.opened && !s.closed then some ⟨0, false, true, true⟩ else none
  else if isAuthorityChar c then some s
  else none

/-- Whether a text is an authority: it ends in a host, in which nothing is encoded, and maybe a
port. -/
def isAuthority (text : List Char) : Bool :=
  text.getLast? ≠ some '@' &&
    (text.foldlM AuthorityScan.next? ⟨0, false, false, false⟩).any fun s =>
      s.colons ≤ 1 && !s.escaped && s.opened == s.closed

/-- Whether a redirect can name a URL that is none of the web: it has a host, or all of it reads as
an authority. -/
def isForeign (u : Url) : Bool :=
  u.toText.length ≤ maxRequestLength &&
    match u.authority with
    | some a => u.scheme.length ≤ maxSchemeLength && a.host.isSome && isAuthority a.toText
    | none => isAuthority u.toText

/-- The URL as a redirect names it, if it can: without its fragment, and with a path behind the
host. On the web there is always one. -/
def named? (u : Url) : Option Url :=
  if u.isHttp then if u.isRequestable then some u.withoutFragment else none
  else if u.isForeign then
    some { u.withoutFragment with
      path := if u.path = .segments [] then .segments [""] else u.path }
  else none

theorem length_toText_withoutFragment_le (u : Url) :
    u.withoutFragment.toText.length ≤ u.toText.length := by
  simp [toText, headText, queryText, fragmentText, withoutFragment]

theorem isRequestable_withoutFragment {u : Url} (h : u.isRequestable = true) :
    u.withoutFragment.isRequestable = true := by
  have hlength := length_toText_withoutFragment_le u
  simp only [isRequestable, Bool.and_eq_true, decide_eq_true_eq] at h ⊢
  exact ⟨h.1, by omega⟩

/-- What a redirect names on the web can be requested. -/
theorem isRequestable_of_named? {u v : Url} (h : u.named? = some v) (hv : v.isHttp = true) :
    v.isRequestable = true := by
  unfold named? at h
  split at h
  · split at h
    · next hr =>
      cases h
      exact isRequestable_withoutFragment hr
    · cases h
  · next hu =>
    split at h
    · cases h
      exact absurd hv hu
    · cases h

/-! ## Credentials -/

/-- The user's name and password in clear, if they are text and not both absent. -/
def clearCredentials? (u : Url) : Option (List Char × Option (List Char)) := do
  let c ← u.credentials?
  let name ← Utf8.decode (Percent.decode c.username.toList)
  let password := c.password.bind fun p => Utf8.decode (Percent.decode p.toList)
  if name.isEmpty && password.isNone then none else some (name, password)

end MigrationClient.Url
