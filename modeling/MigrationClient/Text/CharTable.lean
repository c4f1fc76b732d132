import MigrationClient.Text.Numeral
import MigrationClient.Text.Split

/-!
# Tables about characters

Properties of characters are kept as texts in a compact notation: words separated by spaces and line ends,
code points in hexadecimal, ranges with a hyphen. This module reads them.

- A **set** is a text of ranges: `41-5a 5f`.
- A **classification** gives each range a class: `41-5a:L 5f:N`.
- A **map** gives consecutive characters their images: `c0=41+300,41+301` for two characters
  from U+00C0 on, with two characters each.
- A **shift** moves each of so many characters by one distance: `41*1a+20` for 26 characters
  from U+0041 on, and `100*18/2+1` for every second one.
-/

namespace MigrationClient.Text.CharTable

/-- A code point written in hexadecimal; zero if it is not. -/
def codePoint (s : List Char) : Nat := (value? 16 s).getD 0

/-- The words of a table. -/
def words (table : String) : List (List Char) :=
  (splitBy (fun c => c == ' ' || c == '\n') table.toList).filter (!·.isEmpty)

/-- The range written as `first-last` or as one code point. -/
def range (s : List Char) : Nat × Nat :=
  match cut? (· == '-') s with
  | some (a, b) => (codePoint a, codePoint b)
  | none => (codePoint s, codePoint s)

/-- Whether a code point is in a range. -/
def within (n : Nat) (r : Nat × Nat) : Bool := r.1 ≤ n && n ≤ r.2

/-! ## Sets and classifications -/

/-- The ranges of a set. -/
def ranges (table : String) : List (Nat × Nat) := (words table).map range

/-- The ranges of a classification with their classes. -/
def classes (table : String) : List ((Nat × Nat) × List Char) :=
  (words table).map fun w =>
    match cut? (· == ':') w with
    | some (r, k) => (range r, k)
    | none => (range w, [])

/-- The class of a character in a classification. -/
def classOf? (table : List ((Nat × Nat) × α)) (c : Char) : Option α :=
  (table.find? fun e => within c.toNat e.1).map (·.2)

/-! ## Maps and shifts -/

/-- The image written as code points with `+` between them. -/
def image (s : List Char) : List Char := (splitOn '+' s).map fun t => Char.ofNat (codePoint t)

/-- The pairs of a word `first=image,image,…`. -/
def consecutive (w : List Char) : List (Nat × List Char) :=
  match cut? (· == '=') w with
  | some (a, b) => (splitOn ',' b).zipIdx (codePoint a) |>.map fun (t, n) => (n, image t)
  | none => []

/-- The pairs of a map. -/
def images (table : String) : List (Nat × List Char) := (words table).flatMap consecutive

/-- So many characters from `first` on, each `step` after the one before, that move by one
distance, upwards or downwards. -/
structure Shift where
  first : Nat
  count : Nat
  step : Nat
  up : Bool
  distance : Nat

/-- The image of a character that a shift moves. -/
def Shift.image? (s : Shift) (n : Nat) : Option Char :=
  if s.first ≤ n ∧ n < s.first + s.count * s.step ∧ (n - s.first) % s.step = 0 then
    some (Char.ofNat (if s.up then n + s.distance else n - s.distance))
  else none

/-- The shift written as `first*count+distance`, `first*count-distance` or, with a step of two,
`first*count/2+distance`. -/
def shift (w : List Char) : Shift :=
  let (first, r) := (cut? (· == '*') w).getD (w, [])
  let up := r.contains '+'
  let (size, distance) := (cut? (fun c => c == '+' || c == '-') r).getD (r, [])
  let (count, step) := (cut? (· == '/') size).getD (size, ['1'])
  ⟨codePoint first, codePoint count, codePoint step, up, codePoint distance⟩

/-- The shifts of a table. -/
def shifts (table : String) : List Shift := (words table).map shift

end MigrationClient.Text.CharTable
