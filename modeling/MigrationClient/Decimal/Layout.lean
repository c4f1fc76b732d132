import MigrationClient.Decimal.Shortest

/-!
# Layouts of decimals

How the shortest digits of a floating-point number are laid out. A format states its choices in
one record; everything else is the same for all formats.
-/

namespace MigrationClient.Decimal

/-- The choices of a format. A number whose first digit has an exponent from `low` on and below
`high` is written with its digits in their places; any other with an exponent after `e`. -/
structure Layout where
  low : Option Int
  high : Option Int
  infinity : String
  nan : String

namespace Layout

/-- Whether a number whose first digit has the exponent `e` is written in places. -/
def isPositional (l : Layout) (e : Int) : Bool :=
  l.low.all (· ≤ e) && l.high.all (e < ·)

/-- Digits in their places, with at least one on each side of the point. -/
def positional (ds : List Char) (e : Int) : List Char :=
  if e < 0 then '0' :: '.' :: List.replicate (-e - 1).toNat '0' ++ ds
  else
    let n := e.toNat + 1
    let front := ds.take n ++ List.replicate (n - ds.length) '0'
    let back := ds.drop n
    front ++ '.' :: (if back.isEmpty then ['0'] else back)

/-- One digit, a point and the others, if there are any, and an exponent with its sign. -/
def scientific (ds : List Char) (e : Int) : List Char :=
  ds.take 1 ++ (if ds.length > 1 then '.' :: ds.drop 1 else []) ++
    ['e', if e < 0 then '-' else '+'] ++ Text.decimal e.natAbs

def sign (negative : Bool) : List Char := if negative then ['-'] else []

/-- The text of a number. -/
def text (l : Layout) : Binary64 → List Char
  | .finite s 0 _ => sign s ++ "0.0".toList
  | .finite s m q =>
    let (ds, e) := Shortest.digits m q
    sign s ++ if l.isPositional e then positional ds e else scientific ds e
  | .infinite s => sign s ++ l.infinity.toList
  | .nan => l.nan.toList

end Layout

end MigrationClient.Decimal
