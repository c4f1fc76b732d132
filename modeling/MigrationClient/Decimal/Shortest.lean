import MigrationClient.Decimal.Binary64
import MigrationClient.Text.Numeral

/-!
# Shortest decimals

The fewest decimal digits that are read back as a given floating-point number, and of these the
nearest to it. A decimal is read back as the number exactly when it lies between the middles to
the two neighbouring numbers. For 1, 2, … 17 digits the two points of the decimal grid around
the number are tried, and the first grid with a hit wins.
-/

namespace MigrationClient.Decimal.Shortest

/-- A positive fraction. -/
structure Ratio where
  num : Nat
  den : Nat

namespace Ratio

def le (a b : Ratio) : Bool := a.num * b.den ≤ b.num * a.den

def lt (a b : Ratio) : Bool := a.num * b.den < b.num * a.den

/-- The fraction times `2 ^ q`. -/
def scale2 (a : Ratio) (q : Int) : Ratio :=
  ⟨a.num * Binary64.upScale q, a.den * Binary64.upScale (-q)⟩

/-- The whole number `c` times `10 ^ e`. -/
def ofDecimal (c : Nat) (e : Int) : Ratio := ⟨c * Nat.pow 10 e.toNat, Nat.pow 10 (-e).toNat⟩

/-- How far two fractions are apart. -/
def distance (a b : Ratio) : Ratio :=
  ⟨(a.num * b.den - b.num * a.den) + (b.num * a.den - a.num * b.den), a.den * b.den⟩

/-- The exponent of the highest decimal digit of a positive fraction. -/
def decimalExponent (a : Ratio) : Int :=
  if a.den ≤ a.num then (Text.decimal (a.num / a.den)).length - 1
  else -((Text.decimal ((a.den - 1) / a.num)).length : Int)

end Ratio

/-- The numbers that are read as `m * 2 ^ q`: from `low` to `high`, with both ends if the whole
number is even. -/
structure Interval where
  low : Ratio
  high : Ratio
  closed : Bool

/-- The interval of a number; below a power of two the neighbour is only half as far. -/
def interval (m : Nat) (q : Int) : Interval :=
  let low : Ratio :=
    if m = Nat.pow 2 52 ∧ q > Binary64.minExponent then ⟨4 * m - 1, 4⟩ else ⟨2 * m - 1, 2⟩
  ⟨low.scale2 q, (Ratio.mk (2 * m + 1) 2).scale2 q, m % 2 = 0⟩

def Interval.contains (i : Interval) (a : Ratio) : Bool :=
  if i.closed then i.low.le a && a.le i.high else i.low.lt a && a.lt i.high

/-- The point with exponent `e` that lies in the interval and is nearest to `v`, of equally near
ones the even one. -/
def gridPoint? (i : Interval) (v : Ratio) (e : Int) : Option Nat :=
  let scaled : Ratio := ⟨v.num * Nat.pow 10 (-e).toNat, v.den * Nat.pow 10 e.toNat⟩
  let c := scaled.num / scaled.den
  let a := Ratio.ofDecimal c e
  let b := Ratio.ofDecimal (c + 1) e
  match i.contains a && c ≠ 0, i.contains b with
  | true, true =>
    let da := a.distance v
    let db := b.distance v
    if da.lt db then some c
    else if db.lt da then some (c + 1)
    else some (if c % 2 = 0 then c else c + 1)
  | true, false => some c
  | false, true => some (c + 1)
  | false, false => none

/-- The coefficient and the exponent of the shortest decimal for `m * 2 ^ q`, where `m` is not
zero. Seventeen digits always suffice. -/
def decimal (m : Nat) (q : Int) : Nat × Int :=
  let v := (Ratio.mk m 1).scale2 q
  let i := interval m q
  let e := v.decimalExponent
  let attempt := fun k : Nat => (gridPoint? i v (e - k)).map fun c => (c, e - (k : Int))
  ((List.range 17).findSome? attempt).getD (0, 0)

/-- The digits of the shortest decimal, without zeros at the end, and the exponent of the
first of them. -/
def digits (m : Nat) (q : Int) : List Char × Int :=
  let (c, e) := decimal m q
  let ds := Text.decimal c
  let kept := (ds.reverse.dropWhile (· = '0')).reverse
  (kept, e + (ds.length : Int) - 1)

end MigrationClient.Decimal.Shortest
