import MigrationClient.Text.CharTable
import MigrationClient.Domain.Mapping.Table

/-!
# The mapping of domain names

Before a domain name is looked at, its characters are mapped: letters to lower case,
compatibility forms to plain ones, the full stops of other scripts to `.`, and some characters
to nothing. A name with a character that is not allowed has no mapping.
-/

namespace MigrationClient.Domain

open Text

namespace Mapping

def validRanges : List (Nat × Nat) := CharTable.ranges validTable
def ignoredRanges : List (Nat × Nat) := CharTable.ranges ignoredTable
def shifts : List CharTable.Shift := CharTable.shifts shiftTable
def images : List (Nat × List Char) := CharTable.images imageTable

end Mapping

/-- A character that a label may hold as it is. -/
def isValid (c : Char) : Bool :=
  if c.toNat < 0x80 then !('A' ≤ c && c ≤ 'Z')
  else Mapping.validRanges.any (CharTable.within c.toNat)

/-- What a character becomes: nothing, itself, or others; `none` if it is not allowed. -/
def mapChar? (c : Char) : Option (List Char) :=
  if isValid c then some [c]
  else if Mapping.ignoredRanges.any (CharTable.within c.toNat) then some []
  else
    match Mapping.shifts.findSome? (CharTable.Shift.image? · c.toNat) with
    | some d => some [d]
    | none => (Mapping.images.find? (·.1 = c.toNat)).map (·.2)

/-- The mapping of a text, if all its characters are allowed. -/
def map? (s : List Char) : Option (List Char) := (s.mapM mapChar?).map List.flatten

end MigrationClient.Domain
