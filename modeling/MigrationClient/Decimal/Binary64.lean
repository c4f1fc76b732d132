/-!
# Binary floating point

Numbers of the 64-bit binary format, as exact values: a sign, and a whole number of at most 53
bits times a power of two. An operation gives the number nearest to the exact result, of two
equally near ones that with the even whole number; `nearest` is the one place where that is
decided, in whole-number arithmetic.
-/

namespace MigrationClient.Decimal

/-- A floating-point number: `finite s m q` is `m * 2 ^ q`, negated if `s` holds. -/
inductive Binary64 where
  | finite (negative : Bool) (m : Nat) (q : Int)
  | infinite (negative : Bool)
  | nan
  deriving DecidableEq, Repr

namespace Binary64

/-- The exponent of the smallest numbers. -/
def minExponent : Int := -1074

/-- The exponent of the largest numbers. -/
def maxExponent : Int := 971

/-- The quotient rounded to a whole number, a half to the even neighbour. -/
def divRound (n d : Nat) : Nat :=
  let q := n / d
  let twice := 2 * (n % d)
  if twice > d ∨ (twice = d ∧ q % 2 = 1) then q + 1 else q

/-- `2 ^ q` for a positive exponent, else 1. -/
def upScale (q : Int) : Nat := Nat.pow 2 q.toNat

/-- The whole number at exponent `q` that is nearest to `n / d`. -/
def wholeAt (n d : Nat) (q : Int) : Nat := divRound (n * upScale (-q)) (d * upScale q)

/-- The number nearest to `n / d`, negated if `negative` holds. -/
def nearest (negative : Bool) (n d : Nat) : Binary64 :=
  if n = 0 then finite negative 0 minExponent
  else
    let low := max ((n.log2 : Int) - d.log2 - 53) minExponent
    let q := if n * upScale (-low) ≥ Nat.pow 2 53 * (d * upScale low) then low + 1 else low
    let m := wholeAt n d q
    let (m, q) := if m = Nat.pow 2 53 then (Nat.pow 2 52, q + 1) else (m, q)
    if q > maxExponent then infinite negative else finite negative m q

def ofNat (n : Nat) : Binary64 := nearest false n 1

def ofInt (i : Int) : Binary64 := nearest (i < 0) i.natAbs 1

/-- The number nearest to `c * 10 ^ e`. Exponents that decide alone are not multiplied out: with
`c < 2 ^ (b + 1)`, nothing below `10 ^ -400 * 2 ^ -(b + 1)` is told from zero. -/
def ofDecimal (negative : Bool) (c : Nat) (e : Int) : Binary64 :=
  if c = 0 ∨ e < -400 - (c.log2 : Int) then finite negative 0 minExponent
  else if e > 400 then infinite negative
  else nearest negative (c * Nat.pow 10 e.toNat) (Nat.pow 10 (-e).toNat)

def neg : Binary64 → Binary64
  | finite s m q => finite (!s) m q
  | infinite s => infinite (!s)
  | nan => nan

/-- The product of two finite numbers. -/
def mul : Binary64 → Binary64 → Binary64
  | finite s m q, finite t n p =>
    nearest (s != t) (m * n * upScale (q + p)) (upScale (-(q + p)))
  | _, _ => nan

/-- The quotient of two finite numbers, of which the second is not zero. -/
def div : Binary64 → Binary64 → Binary64
  | finite s m q, finite t n p =>
    nearest (s != t) (m * upScale (q - p)) (n * upScale (p - q))
  | _, _ => nan

def isInfinite : Binary64 → Bool
  | infinite _ => true
  | _ => false

def isZero : Binary64 → Bool
  | finite _ 0 _ => true
  | _ => false

end Binary64

end MigrationClient.Decimal
