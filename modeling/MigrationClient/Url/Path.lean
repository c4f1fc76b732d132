import MigrationClient.Text.Split
import MigrationClient.Url.Basic

/-!
# Normal paths

A path is read segment by segment onto a stack. A segment `..` takes the last one away again, a
segment `.` adds nothing, and either of them at the end leaves an empty last segment. All other
segments are percent-encoded and stay: `walk_of_plain` says so of a run of them.
-/

namespace MigrationClient.Url.Path

open Text

/-- A segment for the directory itself, also with an encoded dot. -/
def isSingleDot (s : List Char) : Bool :=
  String.ofList s ∈ [".", "%2e", "%2E"]

/-- A segment for the directory above, also with encoded dots. -/
def isDoubleDot (s : List Char) : Bool :=
  String.ofList s ∈
    ["..", "%2e%2e", "%2e%2E", "%2E%2e", "%2E%2E", "%2e.", "%2E.", ".%2e", ".%2E"]

/-- A drive: a letter and a colon or a bar. -/
def isDrive : List Char → Bool
  | [c, d] => c.isAlpha && (d = ':' || d = '|')
  | _ => false

/-- The stack without its last segment. A drive is never taken away. -/
def pop : List (List Char) → List (List Char)
  | [] => []
  | s :: r => if isDrive s then s :: r else r

/-- What a segment becomes on a stack; in a file's path the first one may be a drive. -/
def normalSegment (kind : SchemeKind) (stack : List (List Char)) (s : List Char) : List Char :=
  match kind, stack, s with
  | .file, [], [c, _] => if isDrive s then [c, ':'] else Percent.encode Percent.inPath s
  | _, _, _ => Percent.encode Percent.inPath s

/-- The stack, its last segment first, after some segments, of which at least one is there. -/
def walk (kind : SchemeKind) (stack : List (List Char)) : List (List Char) → List (List Char)
  | [] => stack
  | [s] =>
    if isDoubleDot s then [] :: pop stack
    else if isSingleDot s then [] :: stack
    else normalSegment kind stack s :: stack
  | s :: t :: r =>
    walk kind
      (if isDoubleDot s then pop stack
        else if isSingleDot s then stack
        else normalSegment kind stack s :: stack) (t :: r)

/-- A character between two segments. -/
def isSeparator (kind : SchemeKind) (c : Char) : Bool := c = '/' || (kind.isSpecial && c = '\\')

/-- A file's path without the empty segments at its start. -/
def collapse (kind : SchemeKind) (parts : List (List Char)) : List (List Char) :=
  match kind, parts.dropWhile List.isEmpty with
  | .file, [] => [[]]
  | .file, ps => ps
  | _, _ => parts

/-- The path after the segments of `front`, for a text without its first separator. -/
def ofText (kind : SchemeKind) (front : List (List Char)) (s : List Char) : Path :=
  .segments ((collapse kind (walk kind front.reverse (splitBy (isSeparator kind) s)).reverse).map
    String.ofList)

/-- The path in a URL that has an authority. -/
def ofAuthority (kind : SchemeKind) (s : List Char) : Path :=
  match s with
  | [] => if kind.isSpecial then .segments [""] else .segments []
  | c :: r => ofText kind [] (if isSeparator kind c then r else s)

/-- The path in a URL that has none. -/
def ofRest (s : List Char) : Path :=
  match s with
  | '/' :: r => ofText .other [] r
  | _ => .plain (String.ofList (Percent.encode Percent.isControl s))

/-- Segments without dots all stay, in their order. -/
theorem walk_of_plain {parts : List (List Char)} (stack : List (List Char))
    (h : ∀ s ∈ parts, isDoubleDot s = false ∧ isSingleDot s = false) :
    walk .web stack parts = (parts.map (Percent.encode Percent.inPath)).reverse ++ stack := by
  induction parts generalizing stack with
  | nil => rfl
  | cons s r ih =>
    have hs := h s List.mem_cons_self
    have hr := fun t ht => h t (List.mem_cons_of_mem s ht)
    cases r with
    | nil => simp [walk, hs.1, hs.2, normalSegment]
    | cons t r => rw [walk, ih _ hr]; simp [hs.1, hs.2, normalSegment]

end MigrationClient.Url.Path
