import MigrationClient.Url.Parse

/-!
# References

A reference that is found at some URL of the web is read relative to it: parts that it does not
give are taken from there.
-/

namespace MigrationClient.Url

open Text

/-- The segments of the path of a URL, less the last one. -/
def parentSegments (u : Url) : List (List Char) :=
  match u.path with
  | .segments parts => Path.pop (parts.map String.toList).reverse |>.reverse
  | .plain _ => []

/-- The URL at `base` with path, query and fragment of its own. -/
def withTail (base : Url) (kind : SchemeKind) (front : List (List Char)) (path : List Char)
    (tail : Tail) : Url :=
  { base with
    path := Path.ofText kind front path
    query := tail.query.map (encodeQuery kind)
    fragment := tail.fragment.map encodeFragment }

/-- The URL that a reference without a scheme of its own spells at `base`. -/
def relative (base : Url) (s : List Char) : Except ParseError Url :=
  let scheme := base.scheme.toList
  let kind := SchemeKind.ofScheme scheme
  let isSlash := fun c : Char => c = '/' || c = '\\'
  let tail := Tail.ofText s
  match s with
  | [] => .ok base.withoutFragment
  | '#' :: _ => .ok { base with fragment := tail.fragment.map encodeFragment }
  | '?' :: _ =>
    .ok { base with
      query := tail.query.map (encodeQuery kind)
      fragment := tail.fragment.map encodeFragment }
  | c :: r =>
    if isSlash c then
      if r.head?.any isSlash then
        afterSlashes scheme ((after? ['/', '/'] s).getD (s.dropWhile isSlash))
      else .ok (withTail base kind [] (tail.path.drop 1) tail)
    else .ok (withTail base kind (parentSegments base) tail.path tail)

/-- The URL that a reference spells at a URL of the web. -/
def join (base : Url) (reference : String) : Except ParseError Url :=
  let s := clean reference.toList
  match splitScheme? s with
  | some (scheme, rest) =>
    let slashes := rest.takeWhile fun c => c = '/' || c = '\\'
    if SchemeKind.ofScheme scheme = .web ∧ slashes.length < 2 ∧ base.scheme.toList = scheme then
      relative base rest
    else withScheme scheme rest
  | none => relative base s

/-- A reference with a scheme and slashes of its own spells the same URL everywhere. -/
theorem join_of_slashes {reference : String} {scheme rest : List Char}
    (h : splitScheme? (clean reference.toList) = some (scheme, rest))
    (hs : 2 ≤ (rest.takeWhile fun c => c = '/' || c = '\\').length) (base : Url) :
    join base reference = parse reference := by
  simp only [join, parse, h]
  refine if_neg ?_
  rintro ⟨-, hslashes, -⟩
  exact absurd hslashes (Nat.not_lt.2 hs)

end MigrationClient.Url
