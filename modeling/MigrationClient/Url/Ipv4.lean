import MigrationClient.Text.Numeral
import MigrationClient.Text.Split

/-!
# Addresses of four bytes

A host that ends in a number is an address of four bytes. It is written as up to four numbers
with dots between them, each decimal, octal or hexadecimal; the last number fills the bytes that
the others leave.
-/

namespace MigrationClient.Url.Ipv4

open Text

/-- The number in one part of an address. -/
inductive Part where
  | number (n : Nat)
  | tooLarge
  deriving DecidableEq, Repr

/-- A part that is a number: `0x` makes it hexadecimal and a leading zero octal. -/
def part? (s : List Char) : Option Part :=
  let (base, ds) : Nat × List Char :=
    match s with
    | '0' :: 'x' :: r => (16, r)
    | '0' :: 'X' :: r => (16, r)
    | '0' :: c :: r => (8, c :: r)
    | _ => (10, s)
  if s.isEmpty then none
  else if ds.isEmpty then some (.number 0)
  else (value? base ds).map fun n => if n < Nat.pow 2 32 then .number n else .tooLarge

/-- The parts of a host, less an empty last one. -/
def parts (host : List Char) : List (List Char) :=
  let ps := splitOn '.' host
  if ps.getLast? = some [] ∧ ps.length > 1 then ps.dropLast else ps

/-- Whether a host is to be read as an address. -/
def endsInNumber (host : List Char) : Bool :=
  match (parts host).getLast? with
  | some last => (!last.isEmpty && last.all isDecimal) || (part? last).isSome
  | none => false

/-- The address that a host spells. -/
def ofHost? (host : List Char) : Option Nat := do
  let ps := parts host
  if ps.length > 4 then none
  else
    let ns ← ps.mapM fun s =>
      match part? s with
      | some (.number n) => some n
      | _ => none
    let last ← ns.getLast?
    let front := ns.dropLast
    if last < Nat.pow 256 (4 - front.length) ∧ front.all (· < 256) then
      some (front.zipIdx.foldl (fun acc (n, i) => acc + n * Nat.pow 256 (3 - i)) last)
    else none

/-- The address as four decimal numbers. -/
def toText (a : Nat) : List Char :=
  join ['.'] ([a / Nat.pow 256 3 % 256, a / Nat.pow 256 2 % 256, a / 256 % 256, a % 256].map decimal)

end MigrationClient.Url.Ipv4
