import MigrationClient.Text.CharTable
import MigrationClient.Text.Printable.Ranges

/-!
# Printable characters

Which characters a text in quotes shows as themselves. ASCII is decided at once; the rest is
looked up in the tables.
-/

namespace MigrationClient.Text

namespace Printable

/-- The ranges of characters that show nothing. -/
def invisible : List (Nat × Nat) := CharTable.ranges invisibleTable

/-- The ranges of characters that join the one before them. -/
def extenders : List (Nat × Nat) := CharTable.ranges extenderTable

end Printable

/-- A character that shows nothing of itself: a control, a format character, a separator other
than the space, or one that is not assigned. -/
def isInvisible (c : Char) : Bool :=
  if c.toNat < 0x7F then c.toNat < 0x20
  else Printable.invisible.any (CharTable.within c.toNat)

/-- A character that joins the one before it. -/
def isExtender (c : Char) : Bool :=
  0x7F ≤ c.toNat && Printable.extenders.any (CharTable.within c.toNat)

/-- A character that can be shown alone. -/
def isPrintable (c : Char) : Bool := !isInvisible c && !isExtender c

end MigrationClient.Text
