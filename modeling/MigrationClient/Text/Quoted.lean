import MigrationClient.Text.Printable
import MigrationClient.Text.Utf8

/-!
# Quoted texts

A text between double quotes, in which quotes, backslashes and characters that cannot be shown
alone are escaped. Used where a message names a value and where a record is logged.
-/

namespace MigrationClient.Text.Quoted

/-- The characters with an escape of their own. -/
def shortEscape? (c : Char) : Option Char :=
  match c with
  | '\x00' => some '0'
  | '\t' => some 't'
  | '\n' => some 'n'
  | '\r' => some 'r'
  | '"' => some '"'
  | '\\' => some '\\'
  | _ => none

/-- The escape that names a character by its number: `\u`, and the number in braces. -/
def numberEscape (c : Char) : List Char := "\\u\x7b".toList ++ hexadecimal c.toNat ++ ['\x7d']

/-- A character as it stands between quotes. -/
def escapeChar (c : Char) : List Char :=
  match shortEscape? c with
  | some e => ['\\', e]
  | none => if isPrintable c then [c] else numberEscape c

/-- The text between quotes. -/
def quote (s : String) : String :=
  String.ofList ('"' :: s.toList.flatMap escapeChar ++ ['"'])

/-- A byte that belongs to no character, as `\x` and two digits. -/
def escapeByte (b : UInt8) : List Char :=
  "\\x".toList ++ [upperDigitChar (b.toNat / 16), upperDigitChar (b.toNat % 16)]

/-- The items of some bytes between quotes: characters, and the bytes of broken items. -/
def escapeBytes : List UInt8 → List Char
  | [] => []
  | a :: r =>
    let rest := (Utf8.next a r).2
    (match (Utf8.next a r).1 with
      | some c => escapeChar c
      | none => ((a :: r).take (r.length + 1 - rest.length)).flatMap escapeByte) ++
      escapeBytes rest
  termination_by s => s.length
  decreasing_by have := Utf8.next_length_le a r; simp; omega

/-- Bytes between quotes. -/
def quoteBytes (b : List UInt8) : String := String.ofList ('"' :: escapeBytes b ++ ['"'])

end MigrationClient.Text.Quoted
