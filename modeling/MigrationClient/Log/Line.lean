import MigrationClient.Json.Value
import MigrationClient.Log.Event

/-!
# Log lines

An event as a line of text or as a JSON object. On a line of text, controls other than tabs and
line feeds are shown by their numbers.
-/

namespace MigrationClient.Log

open Text

/-- A character of a message on a line of text. -/
def visible (c : Char) : List Char :=
  if c = '\t' ∨ c = '\n' then [c]
  else if c.toNat < 0x20 ∨ c.toNat = 0x7F then
    '\\' :: 'x' :: padLeft '0' 2 (hexadecimal c.toNat)
  else if 0x80 ≤ c.toNat ∧ c.toNat < 0xA0 then
    "\\u\x7b".toList ++ hexadecimal c.toNat ++ ['\x7d']
  else [c]

namespace Event

/-- The event on a line of text, after a time. -/
def line (time : String) (e : Event) : String :=
  String.ofList (time.toList ++ ' ' :: padLeft ' ' 5 e.level.name.toList ++
    ' ' :: e.message.toList.flatMap visible ++ ['\n'])

/-- The event as a JSON object on a line of its own. -/
def jsonLine (time : String) (e : Event) : String :=
  (Json.Value.object [("timestamp", .string time), ("level", .string e.level.name),
    ("message", .string e.message), ("target", .string e.target)]).toString ++ "\n"

end Event

end MigrationClient.Log
