import MigrationClient.Domain.Direction
import MigrationClient.Domain.Joiner
import MigrationClient.Domain.Mapping
import MigrationClient.Domain.Punycode

/-!
# Domain names in ASCII

The form of a domain name that is looked up: the name is mapped and normalized, each label is
checked, and a label that is not plain ASCII is written in punycode after `xn--`. A label that
comes in punycode must stand for a text that the other way round would give that label.
-/

namespace MigrationClient.Domain

open Text

/-- A label as it is read and as it is looked up. -/
structure Label where
  text : List Char
  ascii : List Char

def isAscii (s : List Char) : Bool := s.all (·.toNat < 0x80)

/-- What a label in punycode begins with. -/
def punycodeMark : List Char := "xn--".toList

/-- The longest texts that are read from punycode and written in it. -/
def maxDecoded : Nat := 2000
def maxEncoded : Nat := 1000

/-- A text that a label may stand for. -/
def isLabelText (s : List Char) : Bool :=
  s.all isValid && !s.head?.any isMark && Joiner.arePlaced [] s

/-- The label for a mapped and normalized text without dots. -/
def Label.ofText? (s : List Char) : Option Label :=
  match after? punycodeMark s with
  | some code =>
    if isAscii s && !code.isEmpty && code.getLast? != some '-' && code.length ≤ maxDecoded then
      match Punycode.decode? code with
      | some text =>
        if !isAscii text && Normalization.isNormal text && isLabelText text then some ⟨text, s⟩
        else none
      | none => none
    else none
  | none =>
    if isAscii s then some ⟨s, s⟩
    else if s.length ≤ maxEncoded && isLabelText s then
      some ⟨s, punycodeMark ++ Punycode.encode s⟩
    else none

/-- The form of a domain name that is looked up, if it has one. -/
def toAscii? (s : List Char) : Option (List Char) := do
  let mapped ← map? s
  let labels ← (splitOn '.' (Normalization.normalize mapped)).mapM Label.ofText?
  if labels.any (·.text.any isRightToLeft) && !labels.all (isUniform ·.text) then none
  else some (join ['.'] (labels.map (·.ascii)))

end MigrationClient.Domain
