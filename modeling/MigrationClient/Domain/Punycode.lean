/-!
# Punycode

A text in any script, written with letters, digits and hyphens only. The plain characters come
first; then each other character is told, in ascending order, by how far a counter over
(character, place) has to run from the one before.

Each loop has its own measure: the rest of the input in `decodeFrom`, the number that is being
written in `writeDelta`, and the characters still to be told in `tell`.
-/

namespace MigrationClient.Domain.Punycode

/-! ## The variable-length numerals -/

/-- The digit for a value below 36: letters, then decimal digits. -/
def digit (n : Nat) : Char := if n < 26 then Char.ofNat (97 + n) else Char.ofNat (22 + n)

/-- The value of a digit of either case. -/
def value? (c : Char) : Option Nat :=
  if 'a' ≤ c ∧ c ≤ 'z' then some (c.toNat - 97)
  else if 'A' ≤ c ∧ c ≤ 'Z' then some (c.toNat - 65)
  else if '0' ≤ c ∧ c ≤ '9' then some (c.toNat - 22)
  else none

/-- The threshold at weight position `k`: a digit below it is the last one of its numeral. -/
def threshold (bias k : Nat) : Nat :=
  if k ≤ bias then 1 else if k ≥ bias + 26 then 26 else k - bias

theorem threshold_pos (bias k : Nat) : 1 ≤ threshold bias k := by
  unfold threshold; split <;> (try split) <;> omega

theorem threshold_le (bias k : Nat) : threshold bias k ≤ 26 := by
  unfold threshold; split <;> (try split) <;> omega

/-- The scaled distance that remains, and 36 for each time it was divided by 35. -/
def scale (delta k : Nat) : Nat × Nat :=
  if 455 < delta then scale (delta / 35) (k + 36) else (delta, k)
  termination_by delta
  decreasing_by exact Nat.div_lt_self (by omega) (by omega)

/-- The bias that follows a distance, of the first numeral or of a later one, when so many
characters stand in the text. -/
def adapt (delta count : Nat) (first : Bool) : Nat :=
  let d := if first then delta / 700 else delta / 2
  let (d, k) := scale (d + d / count) 0
  k + 36 * d / (d + 38)

/-! ## Decoding -/

/-- The largest number that the counters hold. -/
def maxCounter : Nat := Nat.pow 2 32 - 1

/-- The state while a text is read: what stands there, the place and the character of the next
insertion, and the bias. -/
structure Reading where
  text : List Char
  place : Nat
  code : Nat
  bias : Nat

/-- The state within a numeral: its start, the weight of the next digit, and the position. -/
structure Numeral where
  start : Nat
  weight : Nat
  k : Nat

/-- A numeral has ended: its character goes into the text. -/
def Reading.insert? (s : Reading) (start : Nat) : Option Reading :=
  let count := s.text.length + 1
  let code := s.code + s.place / count
  let place := s.place % count
  if code > maxCounter ∨ ¬code.isValidChar then none
  else
    some
      { text := s.text.take place ++ Char.ofNat code :: s.text.drop place
        place := place + 1
        code := code
        bias := adapt (s.place - start) count (start = 0) }

/-- The text that the digits tell, within a numeral or between two (`none`). -/
def decodeFrom (s : Reading) (n : Option Numeral) : List Char → Option (List Char)
  | [] => if n.isSome then none else some s.text
  | c :: r =>
    let n := n.getD ⟨s.place, 1, 36⟩
    match value? c with
    | none => none
    | some d =>
      let place := s.place + d * n.weight
      if d * n.weight > maxCounter ∨ place > maxCounter then none
      else
        let t := threshold s.bias n.k
        if d < t then
          match Reading.insert? { s with place } n.start with
          | some s => decodeFrom s none r
          | none => none
        else if n.weight * (36 - t) > maxCounter then none
        else
          decodeFrom { s with place } (some ⟨n.start, n.weight * (36 - t), n.k + 36⟩) r

/-- The plain characters before the last hyphen, and the digits after it. -/
def split (s : List Char) : List Char × List Char :=
  let digits := (s.reverse.takeWhile (· ≠ '-')).reverse
  if digits.length = s.length then ([], s)
  else (s.take (s.length - digits.length - 1), digits)

/-- The text that a punycode text stands for. -/
def decode? (s : List Char) : Option (List Char) :=
  let (plain, digits) := split s
  if plain.any (0x80 ≤ ·.toNat) then none
  else decodeFrom ⟨plain, 0, 0x80, 72⟩ none digits

/-! ## Encoding -/

/-- A distance as a variable-length numeral. -/
def writeDelta (bias k n : Nat) : List Char :=
  let t := threshold bias k
  if n < t then [digit n]
  else digit (t + (n - t) % (36 - t)) :: writeDelta bias (k + 36) ((n - t) / (36 - t))
  termination_by n
  decreasing_by
    have h1 := threshold_pos bias k
    have h2 := threshold_le bias k
    calc (n - threshold bias k) / (36 - threshold bias k)
        ≤ n - threshold bias k := Nat.div_le_self _ _
      _ < n := by omega

/-- The state while a text is written: the distance run so far, the bias, how many characters
are told, and the digits. -/
structure Writing where
  delta : Nat
  bias : Nat
  told : Nat
  first : Bool
  digits : List Char

/-- One character passes while those equal to `code` are told. -/
def Writing.pass (code : Nat) (w : Writing) (c : Char) : Writing :=
  if c.toNat < code then { w with delta := w.delta + 1 }
  else if c.toNat = code then
    { delta := 0
      bias := adapt w.delta (w.told + 1) w.first
      told := w.told + 1
      first := false
      digits := w.digits ++ writeDelta w.bias 36 w.delta }
  else w

/-- The digits that tell the characters `codes`, given in ascending order, after `code`. -/
def tell (s : List Char) (w : Writing) (code : Nat) : List Nat → List Char
  | [] => w.digits
  | m :: rest =>
    let w := s.foldl (Writing.pass m) { w with delta := w.delta + (m - code) * (w.told + 1) }
    tell s { w with delta := w.delta + 1 } (m + 1) rest

/-- The punycode text for a text. -/
def encode (s : List Char) : List Char :=
  let plain := s.filter (·.toNat < 0x80)
  let codes := (((s.filter (0x80 ≤ ·.toNat)).map Char.toNat).mergeSort (· ≤ ·)).eraseDups
  plain ++ (if plain.isEmpty then [] else ['-']) ++
    tell s ⟨0, 72, plain.length, true, []⟩ 0x80 codes

end MigrationClient.Domain.Punycode
