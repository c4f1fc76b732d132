/-!
# Numerals

Digits and the positional numerals made of them, in any base up to sixteen. Reading inverts
writing: `value?_digits`.
-/

namespace MigrationClient.Text

/-! ## Digits -/

/-- The value of a digit, of any base up to sixteen and either case. -/
def digitValue? (c : Char) : Option Nat :=
  if '0' ≤ c ∧ c ≤ '9' then some (c.toNat - 48)
  else if 'a' ≤ c ∧ c ≤ 'f' then some (c.toNat - 87)
  else if 'A' ≤ c ∧ c ≤ 'F' then some (c.toNat - 55)
  else none

/-- The value of a digit below `base`. -/
def digitIn? (base : Nat) (c : Char) : Option Nat := (digitValue? c).filter (· < base)

/-- A decimal digit. -/
def isDecimal (c : Char) : Bool := '0' ≤ c && c ≤ '9'

/-- A hexadecimal digit of either case. -/
def isHex (c : Char) : Bool := (digitValue? c).isSome

/-- The lower-case digit for a value below sixteen. -/
def digitChar (n : Nat) : Char := if n < 10 then Char.ofNat (48 + n) else Char.ofNat (87 + n)

/-- The upper-case digit for a value below sixteen. -/
def upperDigitChar (n : Nat) : Char := if n < 10 then Char.ofNat (48 + n) else Char.ofNat (55 + n)

/-! ## Numerals -/

/-- The digits of a number, the highest first; a zero has one digit. -/
def digits (base n : Nat) : List Char :=
  if _h : 2 ≤ base ∧ base ≤ n then digits base (n / base) ++ [digitChar (n % base)]
  else [digitChar n]
  termination_by n
  decreasing_by exact Nat.div_lt_self (by omega) (by omega)

/-- The decimal digits of a number. -/
def decimal (n : Nat) : List Char := digits 10 n

/-- The decimal digits of an integer, after a minus sign if it is negative. -/
def decimalInt : Int → List Char
  | .ofNat n => decimal n
  | .negSucc n => '-' :: decimal (n + 1)

/-- The lower-case hexadecimal digits of a number. -/
def hexadecimal (n : Nat) : List Char := digits 16 n

/-- The value of a numeral, carried on from `acc`. -/
def valueFrom? (base : Nat) : Nat → List Char → Option Nat
  | acc, [] => some acc
  | acc, c :: r => (digitIn? base c).bind fun d => valueFrom? base (acc * base + d) r

/-- The value of a numeral that has at least one digit. -/
def value? (base : Nat) (s : List Char) : Option Nat :=
  if s.isEmpty then none else valueFrom? base 0 s

/-- The text at the right of a field of the given width, filled up with `c`. -/
def padLeft (c : Char) (width : Nat) (s : List Char) : List Char :=
  List.replicate (width - s.length) c ++ s

theorem digits_ne_nil (base n : Nat) : digits base n ≠ [] := by
  unfold digits; split <;> simp

/-- A numeral has nothing but digits of its base in it. -/
theorem exists_digitChar_of_mem {base n : Nat} {c : Char} (hb : 2 ≤ base)
    (hc : c ∈ digits base n) : ∃ d < base, c = digitChar d := by
  induction n using Nat.strongRecOn with
  | ind n ih =>
    unfold digits at hc
    split at hc
    · next h =>
      rcases List.mem_append.1 hc with hc | hc
      · exact ih _ (Nat.div_lt_self (by omega) (by omega)) hc
      · exact ⟨n % base, Nat.mod_lt n (by omega), List.mem_singleton.1 hc⟩
    · next h => exact ⟨n, by omega, List.mem_singleton.1 hc⟩

/-- A character that is no digit of the base does not stand in a numeral. -/
theorem notMem_digits {base n : Nat} {c : Char} (hb : 2 ≤ base)
    (hc : ∀ d < base, c ≠ digitChar d) : c ∉ digits base n := by
  intro h
  obtain ⟨d, hd, he⟩ := exists_digitChar_of_mem hb h
  exact hc d hd he

theorem digitIn?_digitChar {base n : Nat} (hb : base ≤ 16) (h : n < base) :
    digitIn? base (digitChar n) = some n := by
  have : ∀ m : Fin 16, digitValue? (digitChar m.1) = some m.1 := by decide
  simp [digitIn?, this ⟨n, by omega⟩, h]

theorem valueFrom?_append (base acc : Nat) (s t : List Char) :
    valueFrom? base acc (s ++ t) = (valueFrom? base acc s).bind (valueFrom? base · t) := by
  induction s generalizing acc with
  | nil => rfl
  | cons c r ih => cases h : digitIn? base c <;> simp [valueFrom?, h, ih]

theorem valueFrom?_digits {base : Nat} (hb : 2 ≤ base) (hb' : base ≤ 16) (n : Nat) :
    valueFrom? base 0 (digits base n) = some n := by
  induction n using Nat.strongRecOn with
  | ind n ih =>
    unfold digits
    split
    · rename_i h
      rw [valueFrom?_append, ih _ (Nat.div_lt_self (by omega) (by omega))]
      simp [valueFrom?, digitIn?_digitChar hb' (Nat.mod_lt n (by omega)), Nat.div_add_mod']
    · rename_i h
      simp [valueFrom?, digitIn?_digitChar hb' (show n < base by omega)]

/-- **Reading a numeral gives the number it was written for.** -/
theorem value?_digits {base : Nat} (hb : 2 ≤ base) (hb' : base ≤ 16) (n : Nat) :
    value? base (digits base n) = some n := by
  simp [value?, digits_ne_nil, valueFrom?_digits hb hb']

end MigrationClient.Text
