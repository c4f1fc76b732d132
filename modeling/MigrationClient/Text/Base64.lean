/-!
# Base64

Bytes as letters, digits, `+` and `/`: three bytes make four characters, and what is missing of
the last three shows as `=`.
-/

namespace MigrationClient.Text.Base64

/-- The character for six bits. -/
def character (n : Nat) : Char :=
  if n < 26 then Char.ofNat (65 + n)
  else if n < 52 then Char.ofNat (97 + (n - 26))
  else if n < 62 then Char.ofNat (48 + (n - 52))
  else if n = 62 then '+'
  else '/'

/-- The characters for up to four groups of six bits of a number of 24 bits. -/
def group (count n : Nat) : List Char :=
  [n / 262144, n / 4096 % 64, n / 64 % 64, n % 64].take count |>.map character

def encode : List UInt8 → List Char
  | a :: b :: c :: r => group 4 (a.toNat * 65536 + b.toNat * 256 + c.toNat) ++ encode r
  | [a, b] => group 3 (a.toNat * 65536 + b.toNat * 256) ++ ['=']
  | [a] => group 2 (a.toNat * 65536) ++ ['=', '=']
  | [] => []

end MigrationClient.Text.Base64
