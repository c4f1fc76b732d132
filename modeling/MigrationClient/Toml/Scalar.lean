import MigrationClient.Text.Numeral
import MigrationClient.Text.Split
import MigrationClient.Toml.Value

/-!
# Scalars of TOML documents

Numbers, booleans, dates and times: a run of characters is one of them as a whole, or none.
-/

namespace MigrationClient.Toml

open Text Decimal

/-! ## Numbers -/

/-- The digits of a numeral in which single underscores may stand between digits. -/
def underscored? (isDigit : Char → Bool) (s : List Char) : Option (List Char) :=
  let parts := splitOn '_' s
  if parts.all fun p => !p.isEmpty && p.all isDigit then some parts.flatten else none

/-- The sign of a number and what follows it. -/
def splitSign : List Char → Bool × List Char
  | '-' :: r => (true, r)
  | '+' :: r => (false, r)
  | s => (false, s)

/-- The digits of a decimal numeral without a needless zero in front. -/
def plainDigits? (s : List Char) : Option (List Char) :=
  (underscored? isDecimal s).filter fun ds => ds.length = 1 || ds.head? != some '0'

/-- An integer in decimal with a sign, or in another base without one. -/
def integer? (s : List Char) : Option Int :=
  let based := fun (base : Nat) (r : List Char) =>
    ((underscored? (fun c => (digitIn? base c).isSome) r).bind (value? base)).map Int.ofNat
  match s with
  | '0' :: 'x' :: r => based 16 r
  | '0' :: 'o' :: r => based 8 r
  | '0' :: 'b' :: r => based 2 r
  | _ =>
    let (negative, r) := splitSign s
    ((plainDigits? r).bind (value? 10)).map fun n => if negative then -(n : Int) else n

/-- The exponent after an `e`. -/
def exponent? (s : List Char) : Option Int :=
  let (negative, r) := splitSign s
  ((underscored? isDecimal r).bind (value? 10)).map fun n => if negative then -(n : Int) else n

/-- A float; `none` inside if it is too large. -/
def float? (s : List Char) : Option (Option Binary64) :=
  let (negative, r) := splitSign s
  if r = "inf".toList then some (some (.infinite negative))
  else if r = "nan".toList then some (some .nan)
  else do
    let (mantissa, exponent) : List Char × Option (List Char) :=
      match cut? (fun c => c == 'e' || c == 'E') r with
      | some (a, b) => (a, some b)
      | none => (r, none)
    let (whole, fraction) : List Char × Option (List Char) :=
      match cut? (· == '.') mantissa with
      | some (a, b) => (a, some b)
      | none => (mantissa, none)
    if exponent.isNone && fraction.isNone then none
    else
      let wholeDigits ← plainDigits? whole
      let fractionDigits ← underscored? isDecimal (fraction.getD ['0'])
      let e ← exponent? (exponent.getD ['0'])
      let c := (valueFrom? 10 0 (wholeDigits ++ fractionDigits)).getD 0
      let f := Binary64.ofDecimal negative c (e - fractionDigits.length)
      some (if f.isInfinite then none else some f)

/-! ## Dates and times -/

/-- The number that so many digits spell. -/
def fixedDigits? (n : Nat) (s : List Char) : Option Nat :=
  if s.length = n ∧ s.all isDecimal then value? 10 s else none

def isLeapYear (y : Nat) : Bool := y % 4 = 0 && (y % 100 != 0 || y % 400 = 0)

def daysInMonth (y m : Nat) : Nat :=
  if m = 2 then if isLeapYear y then 29 else 28
  else if m = 4 ∨ m = 6 ∨ m = 9 ∨ m = 11 then 30
  else 31

/-- `2024-02-29` -/
def isDate (s : List Char) : Bool :=
  match (splitOn '-' s) with
  | [a, b, c] =>
    match fixedDigits? 4 a, fixedDigits? 2 b, fixedDigits? 2 c with
    | some y, some m, some d => 1 ≤ m && m ≤ 12 && 1 ≤ d && d ≤ daysInMonth y m
    | _, _, _ => false
  | _ => false

/-- A number of two digits up to `high`. -/
def isPair (high : Nat) (s : List Char) : Bool := (fixedDigits? 2 s).any (· ≤ high)

/-- `12:30`, `12:30:15` or `12:30:15.25` -/
def isTime (s : List Char) : Bool :=
  match splitOn ':' s with
  | [h, m] => isPair 23 h && isPair 59 m
  | [h, m, t] =>
    isPair 23 h && isPair 59 m &&
      (match cut? (· == '.') t with
        | some (s, f) => isPair 60 s && !f.isEmpty && f.all isDecimal
        | none => isPair 60 t)
  | _ => false

/-- `+01:30` -/
def isOffset (s : List Char) : Bool :=
  match s with
  | c :: r =>
    (c = '+' || c = '-') &&
      (match splitOn ':' r with
        | [h, m] => isPair 23 h && isPair 59 m
        | _ => false)
  | [] => false

/-- A time with an offset from the standard time, or without. -/
def isTimeWithOffset (s : List Char) : Bool :=
  if s.getLast?.any (fun c => c = 'Z' || c = 'z') then isTime s.dropLast
  else
    let t := s.takeWhile fun c => c ≠ '+' && c ≠ '-'
    let offset := s.drop t.length
    isTime t && (offset.isEmpty || isOffset offset)

/-- A date, a time, or a date with a time after `T` or a space. -/
def isMoment (s : List Char) : Bool :=
  isDate s || isTime s ||
    (isDate (s.take 10) && (s.drop 10).head?.any (fun c => c = 'T' || c = 't' || c = ' ') &&
      isTimeWithOffset (s.drop 11))

/-! ## All of them -/

/-- The value of a run of characters. -/
def scalar? (span : Span) (s : List Char) : Option Value :=
  if s = "true".toList then some (.boolean span true)
  else if s = "false".toList then some (.boolean span false)
  else
    match integer? s with
    | some i => some (.integer span i)
    | none =>
      match float? s with
      | some (some f) => some (.float span f)
      | some none => some (.hugeFloat span)
      | none => if isMoment s then some (.date span) else none

/-- A character that such a run may hold. -/
def isScalarChar (c : Char) : Bool :=
  c.isAlphanum || c = '+' || c = '-' || c = '_' || c = '.' || c = ':'

/-- How long the run is: a date goes on after a space if a time follows. -/
def scalarLength (s : List Char) : Nat :=
  let n := (s.takeWhile isScalarChar).length
  match s.drop n with
  | ' ' :: a :: b :: ':' :: r =>
    if isDate (s.take n) && isDecimal a && isDecimal b then
      n + 4 + (r.takeWhile isScalarChar).length
    else n
  | _ => n

end MigrationClient.Toml
