import MigrationClient.Text.Normalization
import MigrationClient.Domain.Joiner.Table

/-!
# Joiners

The two invisible joiners may stand in a label only where they change how it looks: after a
character that kills a vowel, or, for the one that keeps letters apart, between two letters that
would otherwise join.
-/

namespace MigrationClient.Domain

open Text

namespace Joiner

def joiningTypes : List ((Nat × Nat) × List Char) := CharTable.classes joiningTable
def marks : List (Nat × Nat) := CharTable.ranges markTable

/-- The joining type of a character, if it joins on some side or is transparent. -/
def joiningType? (c : Char) : Option (List Char) :=
  if c.toNat < 0x80 then none else CharTable.classOf? joiningTypes c

/-- The joining type of the nearest character that is not transparent. -/
def nearest? (s : List Char) : Option (List Char) :=
  (s.dropWhile fun c => joiningType? c = some ['T']).head?.bind joiningType?

/-- A combining character that kills the vowel before it. -/
def isVirama (c : Char) : Bool := Normalization.combiningClass c = 9

/-- Whether a character may stand where it does, given the characters before it, the nearest
first, and those after it. -/
def isPlaced (before : List Char) (c : Char) (after : List Char) : Bool :=
  if c.toNat = 0x200D then before.head?.any isVirama
  else if c.toNat = 0x200C then
    before.head?.any isVirama ||
      ((nearest? before).any (· ∈ [['L'], ['D']]) && (nearest? after).any (· ∈ [['R'], ['D']]))
  else true

/-- Whether every joiner after `before` may stand where it does. -/
def arePlaced (before : List Char) : List Char → Bool
  | [] => true
  | c :: r => isPlaced before c r && arePlaced (c :: before) r

end Joiner

/-- A combining mark, with which no label may begin. -/
def isMark (c : Char) : Bool :=
  0x300 ≤ c.toNat && Joiner.marks.any (CharTable.within c.toNat)

end MigrationClient.Domain
