import MigrationClient.Text.CharTable
import MigrationClient.Domain.Direction.Table

/-!
# Writing direction

A domain name that holds a right-to-left character anywhere is a bidirectional one. Each of its
labels must then keep one direction, so that it is shown in one piece (`isUniform`).
-/

namespace MigrationClient.Domain

open Text

/-- The bidirectional classes that the rule tells apart. -/
inductive Direction where
  | left | right | arabicLetter | arabicNumber | europeanNumber | neutral | mark | other
  deriving DecidableEq, Repr

namespace Direction

/-- The class written as in the table. Separators and terminators of numbers, boundary
neutrals and other neutrals are all one to the rule. -/
def ofName (s : List Char) : Direction :=
  match String.ofList s with
  | "R" => right
  | "AL" => arabicLetter
  | "AN" => arabicNumber
  | "EN" => europeanNumber
  | "NSM" => mark
  | "ES" | "CS" | "ET" | "ON" | "BN" => neutral
  | _ => other

def classes : List ((Nat × Nat) × Direction) :=
  (CharTable.classes classTable).map fun (r, k) => (r, ofName k)

/-- The class of a character. -/
def ofChar (c : Char) : Direction :=
  if ('a' ≤ c && c ≤ 'z') || ('A' ≤ c && c ≤ 'Z') then left
  else (CharTable.classOf? classes c).getD left

end Direction

/-- A character that makes the domain name around it a bidirectional one. -/
def isRightToLeft (c : Char) : Bool :=
  match Direction.ofChar c with
  | .right | .arabicLetter | .arabicNumber => true
  | _ => false

/-- The class of the last character that is not a mark. -/
def lastDirection? (ds : List Direction) : Option Direction :=
  (ds.filter (· ≠ .mark)).getLast?

/-- A label that keeps one direction. A left-to-right label begins with a left-to-right letter,
ends in one or in a European number, and holds no right-to-left character. A right-to-left label
begins with a right-to-left letter, ends in one or in a number, holds no left-to-right letter,
and numbers of one kind only. -/
def isUniform (label : List Char) : Bool :=
  let ds := label.map Direction.ofChar
  match ds with
  | [] => true
  | .left :: _ =>
    ds.all (· ∈ [.left, .europeanNumber, .neutral, .mark]) &&
      lastDirection? ds ∈ [some .left, some .europeanNumber]
  | .right :: _ | .arabicLetter :: _ =>
    ds.all (· ∈ [.right, .arabicLetter, .arabicNumber, .europeanNumber, .neutral, .mark]) &&
      lastDirection? ds ∈
        [some .right, some .arabicLetter, some .arabicNumber, some .europeanNumber] &&
      !(ds.contains .arabicNumber && ds.contains .europeanNumber)
  | _ => false

end MigrationClient.Domain
