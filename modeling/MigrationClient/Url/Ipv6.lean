import MigrationClient.Text.Numeral
import MigrationClient.Text.Split

/-!
# Addresses of eight pieces

An address of eight 16-bit pieces in hexadecimal, with colons between them. Two colons stand for
one or more zero pieces, once; the last two pieces may be written as an address of four bytes.
-/

namespace MigrationClient.Url.Ipv6

open Text

/-- The pieces before the double colon, if it has been seen, and those after it. -/
structure Pieces where
  front : List Nat
  back : Option (List Nat)

namespace Pieces

/-- How many places are taken; the double colon takes one. -/
def count (p : Pieces) : Nat :=
  p.front.length + (p.back.map (·.length + 1)).getD 0

def push (p : Pieces) (n : Nat) : Pieces :=
  match p.back with
  | none => { p with front := p.front ++ [n] }
  | some b => { p with back := some (b ++ [n]) }

/-- The eight pieces, with zeros where the double colon is. -/
def complete? (p : Pieces) : Option (List Nat) :=
  match p.back with
  | none => if p.front.length = 8 then some p.front else none
  | some b =>
    if p.count ≤ 8 then
      some (p.front ++ List.replicate (8 - p.front.length - b.length) 0 ++ b)
    else none

end Pieces

/-- A byte in decimal, without leading zeros. -/
def byte? (s : List Char) : Option Nat :=
  if s.length > 1 ∧ s.head? = some '0' then none
  else if s.all isDecimal then (value? 10 s).filter (· < 256)
  else none

/-- The two pieces of an address of four bytes. -/
def tail? (s : List Char) : Option (Nat × Nat) :=
  match (splitOn '.' s).map byte? with
  | [some a, some b, some c, some d] => some (a * 256 + b, c * 256 + d)
  | _ => none

/-- The pieces in the rest of an address, where a piece or the second colon of two may follow. -/
def pieces? (p : Pieces) (s : List Char) : Option Pieces :=
  if p.count ≥ 8 then if s.isEmpty then some p else none
  else
    match s with
    | [] => some p
    | ':' :: r => if p.back.isSome then none else pieces? { p with back := some [] } r
    | c :: r =>
      let ds := (c :: r).take 4 |>.takeWhile isHex
      let n := (valueFrom? 16 0 ds).getD 0
      match _h : (c :: r).drop ds.length with
      | [] => some (p.push n)
      | '.' :: _ =>
        if ds.isEmpty ∨ p.count > 6 then none
        else (tail? (c :: r)).map fun (a, b) => (p.push a).push b
      | ':' :: r' =>
        if r'.isEmpty then none else pieces? (p.push n) r'
      | _ => none
  termination_by s.length
  decreasing_by
    · simp
    · have := congrArg List.length _h
      simp at this
      simp; omega

/-- The address that a text spells. -/
def ofText? (s : List Char) : Option (List Nat) :=
  let start : Option (Pieces × List Char) :=
    match s with
    | [] | [_] => none
    | ':' :: ':' :: r => some (⟨[], some []⟩, r)
    | ':' :: _ => none
    | _ => some (⟨[], none⟩, s)
  start.bind fun (p, r) => (pieces? p r).bind Pieces.complete?

/-! ## Writing -/

/-- The length of the run of zeros that a list begins with. -/
def zeroRun (ps : List Nat) : Nat := (ps.takeWhile (· = 0)).length

/-- Where the longest run of zeros is, the first of equals, and how long it is. -/
def longestRun (ps : List Nat) : Nat × Nat :=
  (List.range ps.length).foldl (fun best i =>
    if zeroRun (ps.drop i) > best.2 then (i, zeroRun (ps.drop i)) else best) (0, 0)

/-- The address with its longest run of two or more zeros left out. -/
def toText (ps : List Nat) : List Char :=
  let (i, n) := longestRun ps
  let piece := fun qs : List Nat => join [':'] (qs.map hexadecimal)
  if n < 2 then piece ps else piece (ps.take i) ++ [':', ':'] ++ piece (ps.drop (i + n))

end MigrationClient.Url.Ipv6
