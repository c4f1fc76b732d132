import MigrationClient.Text.CharTable
import MigrationClient.Text.Normalization.Table

/-!
# Canonical normalization

Normalization form C: characters are taken apart, marks are put in the order of their combining
classes, and what composes is put together again.
-/

namespace MigrationClient.Text.Normalization

/-- Full canonical decompositions. -/
def decompositions : List (Nat × List Char) := CharTable.images decompositionTable

/-- The pairs that compose, each with the character it composes to. -/
def compositions : List (Nat × List Char) := CharTable.images compositionTable

/-- Combining classes other than zero. -/
def combiningClasses : List ((Nat × Nat) × Nat) :=
  (CharTable.classes combiningClassTable).map fun (r, k) => (r, CharTable.codePoint k)

/-- The combining class of a character; zero for one that starts a cluster. -/
def combiningClass (c : Char) : Nat :=
  if c.toNat < 0x300 then 0 else (CharTable.classOf? combiningClasses c).getD 0

/-! ## Hangul syllables -/

def syllableBase : Nat := 0xAC00
def leadBase : Nat := 0x1100
def vowelBase : Nat := 0x1161
def tailBase : Nat := 0x11A7

/-- A syllable is a lead consonant, one of 21 vowels, and one of 28 tails, the first of them
none. -/
def isSyllable (c : Char) : Bool := 0xAC00 ≤ c.toNat && c.toNat ≤ 0xD7A3

def decomposeSyllable (c : Char) : List Char :=
  let i := c.toNat - syllableBase
  [Char.ofNat (leadBase + i / 588), Char.ofNat (vowelBase + i % 588 / 28)] ++
    (if i % 28 = 0 then [] else [Char.ofNat (tailBase + i % 28)])

/-- The syllable of a lead and a vowel, or of a syllable without a tail and a tail. -/
def composeSyllable? (a b : Char) : Option Char :=
  if leadBase ≤ a.toNat ∧ a.toNat < leadBase + 19 ∧ vowelBase ≤ b.toNat ∧
      b.toNat < vowelBase + 21 then
    some (Char.ofNat
      (syllableBase + (a.toNat - leadBase) * 588 + (b.toNat - vowelBase) * 28))
  else if isSyllable a ∧ (a.toNat - syllableBase) % 28 = 0 ∧ tailBase < b.toNat ∧
      b.toNat < tailBase + 28 then
    some (Char.ofNat (a.toNat + (b.toNat - tailBase)))
  else none

/-! ## Taking apart and putting together -/

/-- The full decomposition of a character. -/
def decomposeChar (c : Char) : List Char :=
  if c.toNat < 0xC0 then [c]
  else if isSyllable c then decomposeSyllable c
  else ((decompositions.find? (·.1 = c.toNat)).map (·.2)).getD [c]

/-- A mark put in front of the marks that follow it, behind those of a lower or equal class that
already stand there. -/
def insertMark (c : Char) : List Char → List Char
  | [] => [c]
  | d :: r =>
    if combiningClass d ≠ 0 ∧ combiningClass d < combiningClass c then d :: insertMark c r
    else c :: d :: r

/-- Every run of marks in the order of their classes; marks of one class keep their order. -/
def order (s : List Char) : List Char :=
  s.foldr (fun c r => if combiningClass c = 0 then c :: r else insertMark c r) []

/-- The character that two characters compose to. -/
def compose? (a b : Char) : Option Char :=
  if b.toNat < 0x300 then none
  else (composeSyllable? a b).or
    ((compositions.find? fun e => e.2 == [a, b]).map fun e => Char.ofNat e.1)

/-- A starter with the marks after it that did not compose, and the class of the last of these:
what is being put together. -/
structure Cluster where
  starter : Char
  marks : List Char
  last : Nat

/-- The next character joins the starter, if nothing between them stands in the way. -/
def Cluster.step (k : Cluster) (c : Char) : Cluster × List Char :=
  let cls := combiningClass c
  let free := k.marks.isEmpty || (k.last < cls)
  match if free then compose? k.starter c else none with
  | some d => (⟨d, k.marks, k.last⟩, [])
  | none =>
    if cls = 0 then (⟨c, [], 0⟩, k.starter :: k.marks)
    else (⟨k.starter, k.marks ++ [c], cls⟩, [])

/-- What follows a cluster, composed. -/
def composeFrom (k : Cluster) : List Char → List Char
  | [] => k.starter :: k.marks
  | c :: r => (k.step c).2 ++ composeFrom (k.step c).1 r

/-- The text with everything composed that composes; marks before the first starter stay. -/
def compose (s : List Char) : List Char :=
  let lead := s.takeWhile (combiningClass · ≠ 0)
  match s.drop lead.length with
  | [] => lead
  | c :: r => lead ++ composeFrom ⟨c, [], 0⟩ r

/-- The normalization form C of a text. -/
def normalize (s : List Char) : List Char := compose (order (s.flatMap decomposeChar))

/-- A text that is its own normalization form C. -/
def isNormal (s : List Char) : Bool := normalize s == s

end MigrationClient.Text.Normalization
