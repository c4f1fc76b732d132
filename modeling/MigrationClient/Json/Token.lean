import MigrationClient.Json.Fault
import MigrationClient.Reading
import MigrationClient.Text.Utf8

/-!
# Tokens of JSON texts

Reading words, numbers and strings off the front of a byte sequence. Every reader that succeeds
leaves fewer bytes than it got (`token_shorter`), which is what the readers of whole values
terminate by.
-/

namespace MigrationClient.Json

open Text Reader

/-- What a step of reading gives: a result and the bytes that are left. -/
abbrev Step (α : Type) := Except Fault (α × List UInt8)

/-- A fault noticed at the bytes that were just taken. -/
def faultAt (cause : Cause) (rest : List UInt8) : Except Fault α := .error ⟨cause, rest.length, true⟩

/-- A fault noticed at the next byte, or at the end. -/
def faultNext (cause : Cause) (rest : List UInt8) : Except Fault α :=
  .error ⟨cause, rest.length - 1, true⟩

/-! ## Blanks -/

def isSpace (b : UInt8) : Bool := b = 32 || b = 10 || b = 9 || b = 13

def skipSpace (s : List UInt8) : List UInt8 := s.dropWhile isSpace

theorem skipSpace_length_le (s : List UInt8) : (skipSpace s).length ≤ s.length :=
  length_dropWhile_le _ s

/-! ## Words -/

/-- The rest of a word whose first letter has been seen. -/
def word : (letters s : List UInt8) → Except Fault (List UInt8)
  | [], s => .ok s
  | _ :: _, [] => faultAt .eofInValue []
  | w :: ws, c :: r => if c = w then word ws r else faultAt .expectedIdent r

theorem word_length_le {ws s r : List UInt8} (h : word ws s = .ok r) : r.length ≤ s.length := by
  induction ws generalizing s with
  | nil => cases h; exact Nat.le_refl _
  | cons w ws ih =>
    cases s with
    | nil => cases h
    | cons c t =>
      rw [word] at h
      split at h
      · exact Nat.le_succ_of_le (ih h)
      · cases h

/-! ## Numbers -/

def isDigit (b : UInt8) : Bool := 48 ≤ b && b ≤ 57

/-- The largest integer that is kept exact. -/
def maxInteger : Nat := Nat.pow 2 64 - 1

/-- The value of digits carried on from `n` as long as it is an integer that is kept exact, and
the digits from the first that does not fit. -/
def absorb (n : Nat) : List UInt8 → Nat × List UInt8
  | [] => (n, [])
  | d :: r =>
    let m := n * 10 + (d.toNat - 48)
    if m > maxInteger then (n, d :: r) else absorb m r

/-- The floating-point number `n * 10 ^ e`, computed with one rounding for each step: the integer
is rounded, and then multiplied or divided by a rounded power of ten, of which the largest is
`1e308`. There is none if it is too large. -/
def scaleTen (f : Decimal.Binary64) (e : Int) : Option Decimal.Binary64 :=
  let power := fun k : Nat => Decimal.Binary64.ofNat (Nat.pow 10 k)
  if e.natAbs ≤ 308 then
    if e ≥ 0 then
      let g := f.mul (power e.natAbs)
      if g.isInfinite then none else some g
    else some (f.div (power e.natAbs))
  else if f.isZero then some f
  else if e ≥ 0 then none
  else scaleTen (f.div (power 308)) (e + 308)
  termination_by (-e).toNat
  decreasing_by omega

def floatNumber (positive : Bool) (n : Nat) (e : Int) (rest : List UInt8) : Step Number :=
  match scaleTen (Decimal.Binary64.ofNat n) e with
  | some f => .ok (.float (if positive then f else f.neg), rest)
  | none => faultAt .numberOutOfRange rest

/-- The largest exponent that is read. -/
def maxExponent : Nat := Nat.pow 2 31 - 1

/-- How many digits of an exponent are read up to the first with which it is too large; `none` if
they all fit. -/
def exponentOverflow? (n read : Nat) : List UInt8 → Option Nat
  | [] => none
  | d :: r =>
    let m := n * 10 + (d.toNat - 48)
    if m > maxExponent then some (read + 1) else exponentOverflow? m (read + 1) r

/-- The exponent after an `e`, of the number `n * 10 ^ e`. -/
def exponent (positive : Bool) (n : Nat) (e : Int) (s : List UInt8) : Step Number :=
  let (up, s) : Bool × List UInt8 :=
    match s with
    | 43 :: r => (true, r)
    | 45 :: r => (false, r)
    | _ => (true, s)
  let ds := s.takeWhile isDigit
  let rest := s.dropWhile isDigit
  if ds.isEmpty then
    match s with
    | [] => faultAt .eofInValue []
    | _ :: r => faultAt .invalidNumber r
  else
    match exponentOverflow? 0 0 ds with
    | some k =>
      if n ≠ 0 ∧ up then faultAt .numberOutOfRange (s.drop k)
      else .ok (.float (.finite (!positive) 0 Decimal.Binary64.minExponent), rest)
    | none =>
      let k : Int := (ds.foldl (fun a d => a * 10 + (d.toNat - 48)) 0 : Nat)
      floatNumber positive n (if up then e + k else e - k) rest

/-- What may follow the fraction of `n * 10 ^ e`. -/
def afterFraction (positive : Bool) (n : Nat) (e : Int) (s : List UInt8) : Step Number :=
  match s with
  | b :: r => if b = 101 ∨ b = 69 then exponent positive n e r else floatNumber positive n e s
  | [] => floatNumber positive n e s

/-- An integer as it is kept: minus zero and what is too small become floating-point numbers. -/
def integerNumber (positive : Bool) (n : Nat) : Number :=
  if positive then .integer n
  else if n = 0 ∨ n > Nat.pow 2 63 then .float (Decimal.Binary64.ofNat n).neg
  else .integer (-(n : Int))

/-- What may follow the digits of an integer, of which the last `dropped` did not fit. -/
def afterInteger (positive : Bool) (n dropped : Nat) (s : List UInt8) : Step Number :=
  let plain : Step Number :=
    if dropped = 0 then .ok (integerNumber positive n, s) else floatNumber positive n dropped s
  match s with
  | [] => plain
  | b :: r =>
    if b = 46 then
      let fs := r.takeWhile isDigit
      if fs.isEmpty then faultNext (if r.isEmpty then .eofInValue else .invalidNumber) r
      else
        let (m, left) := absorb n fs
        afterFraction positive m ((dropped : Int) - (fs.length - left.length : Nat))
          (r.dropWhile isDigit)
    else if b = 101 ∨ b = 69 then exponent positive n dropped r
    else plain

/-- A number after its sign. -/
def number (positive : Bool) (s : List UInt8) : Step Number :=
  match s with
  | [] => faultAt .eofInValue []
  | b :: r =>
    if b = 48 then
      if r.head?.any isDigit then faultNext .invalidNumber r else afterInteger positive 0 0 r
    else if isDigit b then
      let (n, left) := absorb 0 (s.takeWhile isDigit)
      afterInteger positive n left.length (r.dropWhile isDigit)
    else faultAt .invalidNumber r

theorem floatNumber_length_le {p : Bool} {n : Nat} {e : Int} {s : List UInt8} {a r}
    (h : floatNumber p n e s = .ok (a, r)) : r.length ≤ s.length := by
  unfold floatNumber at h
  split at h
  · cases h; exact Nat.le_refl _
  · cases h

theorem exponent_length_le {p : Bool} {n : Nat} {e : Int} {s : List UInt8} {a r}
    (h : exponent p n e s = .ok (a, r)) : r.length ≤ s.length := by
  have key : ∀ (up : Bool) (t : List UInt8), t.length ≤ s.length →
      (let ds := t.takeWhile isDigit
       let rest := t.dropWhile isDigit
       if ds.isEmpty then
         match t with
         | [] => (faultAt .eofInValue [] : Step Number)
         | _ :: r => faultAt .invalidNumber r
       else
         match exponentOverflow? 0 0 ds with
         | some k =>
           if n ≠ 0 ∧ up then faultAt .numberOutOfRange (t.drop k)
           else .ok (.float (.finite (!p) 0 Decimal.Binary64.minExponent), rest)
         | none =>
           let k : Int := (ds.foldl (fun a d => a * 10 + (d.toNat - 48)) 0 : Nat)
           floatNumber p n (if up then e + k else e - k) rest) = .ok (a, r) →
      r.length ≤ s.length := by
    intro up t ht h
    have hd := length_dropWhile_le isDigit t
    simp only at h
    split at h
    · split at h <;> cases h
    · split at h
      · split at h
        · cases h
        · cases h; omega
      · have := floatNumber_length_le h; omega
  unfold exponent at h
  split at h
  rename_i up t heq
  refine key up t ?_ h
  split at heq <;> cases heq <;> simp

theorem afterFraction_length_le {p : Bool} {n : Nat} {e : Int} {s : List UInt8} {a r}
    (h : afterFraction p n e s = .ok (a, r)) : r.length ≤ s.length := by
  unfold afterFraction at h
  split at h
  · split at h
    · exact Nat.le_succ_of_le (exponent_length_le h)
    · exact floatNumber_length_le h
  · exact floatNumber_length_le h

theorem afterInteger_length_le {p : Bool} {n d : Nat} {s : List UInt8} {a r}
    (h : afterInteger p n d s = .ok (a, r)) : r.length ≤ s.length := by
  have plain : (if d = 0 then (.ok (integerNumber p n, s) : Step Number)
      else floatNumber p n d s) = .ok (a, r) → r.length ≤ s.length := by
    intro h
    split at h
    · cases h; exact Nat.le_refl _
    · exact floatNumber_length_le h
  unfold afterInteger at h
  simp only at h
  split at h
  · exact plain h
  · rename_i b t
    split at h
    · split at h
      · cases h
      · have h1 := afterFraction_length_le h
        have h2 := length_dropWhile_le isDigit t
        simp only [List.length_cons]; omega
    · split at h
      · exact Nat.le_succ_of_le (exponent_length_le h)
      · exact plain h

theorem number_shorter {p : Bool} {s : List UInt8} {a r} (h : number p s = .ok (a, r)) :
    r.length < s.length := by
  unfold number at h
  split at h
  · cases h
  · rename_i b t
    split at h
    · split at h
      · cases h
      · exact Nat.lt_succ_of_le (afterInteger_length_le h)
    · split at h
      · have h1 := afterInteger_length_le h
        have h2 := length_dropWhile_le isDigit t
        simp only [List.length_cons]; omega
      · cases h

/-! ## Strings -/

/-- The value of four hexadecimal digits. -/
def hexEscape : List UInt8 → Step Nat
  | a :: b :: c :: d :: r =>
    match valueFrom? 16 0 ([a, b, c, d].map fun x => Char.ofNat x.toNat) with
    | some n => .ok (n, r)
    | none => faultAt .invalidEscape r
  | _ => faultAt .eofInString []

theorem hexEscape_shorter {s : List UInt8} {n r} (h : hexEscape s = .ok (n, r)) :
    r.length < s.length := by
  unfold hexEscape at h
  split at h
  · split at h <;> cases h
    simp; omega
  · cases h

/-- The bytes of a character given by its number. -/
def characterBytes (n : Nat) : List UInt8 := Utf8.encodeChar (Char.ofNat n)

/-- The second of two surrogates, after the first. -/
def secondSurrogate (n : Nat) (s : List UInt8) : Step (List UInt8) :=
  match s with
  | [] => faultAt .eofInString []
  | 92 :: [] => faultAt .eofInString []
  | 92 :: 117 :: r =>
    match hexEscape r with
    | .error f => .error f
    | .ok (m, t) =>
      if 0xDC00 ≤ m ∧ m ≤ 0xDFFF then
        .ok (characterBytes (0x10000 + (n - 0xD800) * 1024 + (m - 0xDC00)), t)
      else faultAt .loneSurrogate t
  | 92 :: _ :: r => faultAt .endOfHexEscape r
  | _ :: r => faultAt .endOfHexEscape r

/-- The byte that a letter stands for after a backslash. -/
def simpleEscape? (b : UInt8) : Option UInt8 :=
  if b = 34 ∨ b = 92 ∨ b = 47 then some b
  else if b = 98 then some 8
  else if b = 102 then some 12
  else if b = 110 then some 10
  else if b = 114 then some 13
  else if b = 116 then some 9
  else none

/-- The bytes that an escape stands for, after its backslash. -/
def escape (s : List UInt8) : Step (List UInt8) :=
  match s with
  | [] => faultAt .eofInString []
  | b :: r =>
    if b = 117 then
      match hexEscape r with
      | .error f => .error f
      | .ok (n, t) =>
        if 0xDC00 ≤ n ∧ n ≤ 0xDFFF then faultAt .loneSurrogate t
        else if 0xD800 ≤ n ∧ n ≤ 0xDBFF then secondSurrogate n t
        else .ok (characterBytes n, t)
    else
      match simpleEscape? b with
      | some c => .ok ([c], r)
      | none => faultAt .invalidEscape r

theorem secondSurrogate_shorter {n : Nat} {s : List UInt8} {a r}
    (h : secondSurrogate n s = .ok (a, r)) : r.length < s.length := by
  unfold secondSurrogate at h
  split at h
  · cases h
  · cases h
  · split at h
    · cases h
    · rename_i hx
      have := hexEscape_shorter hx
      split at h
      · obtain ⟨-, rfl⟩ := Prod.mk.inj (Except.ok.inj h)
        simp; omega
      · cases h
  · cases h
  · cases h

theorem escape_shorter {s : List UInt8} {a r} (h : escape s = .ok (a, r)) :
    r.length < s.length := by
  unfold escape at h
  split at h
  · cases h
  · split at h
    · split at h
      · cases h
      · rename_i hx
        have h1 := hexEscape_shorter hx
        split at h
        · cases h
        · split at h
          · have := secondSurrogate_shorter h; simp; omega
          · cases h; simp; omega
    · split at h
      · cases h; simp
      · cases h

/-- The bytes of a string up to its closing quote, with the escapes resolved. -/
def stringBytes : List UInt8 → Step (List UInt8)
  | [] => faultAt .eofInString []
  | b :: r =>
    if b = 34 then .ok ([], r)
    else if b = 92 then
      match _h : escape r with
      | .error f => .error f
      | .ok (bs, t) => (stringBytes t).map fun (cs, u) => (bs ++ cs, u)
    else if b < 32 then faultAt .controlCharacter r
    else (stringBytes r).map fun (cs, u) => (b :: cs, u)
  termination_by s => s.length
  decreasing_by
    · have := escape_shorter _h; simp; omega
    · simp

theorem stringBytes_shorter {s : List UInt8} {a r} (h : stringBytes s = .ok (a, r)) :
    r.length < s.length := by
  fun_induction stringBytes s generalizing a r with
  | case1 => cases h
  | case2 => cases h; simp
  | case3 => cases h
  | case4 r' bs t hx _ ih =>
    obtain ⟨⟨cs, u⟩, hu, hr⟩ := map_eq_ok h
    cases hr
    have := ih hu
    have := escape_shorter hx
    simp; omega
  | case5 => cases h
  | case6 b r' _ _ _ ih =>
    obtain ⟨⟨cs, u⟩, hu, hr⟩ := map_eq_ok h
    cases hr
    have := ih hu
    simp; omega

/-- A string after its opening quote. -/
def string (s : List UInt8) : Step String :=
  match stringBytes s with
  | .error f => .error f
  | .ok (bytes, rest) =>
    let raw := s.take (s.length - rest.length - 1)
    let valid := Utf8.validLength raw
    match Utf8.toString? bytes with
    | some text =>
      if valid < raw.length then faultAt .invalidUnicode (s.drop (valid + 1)) else .ok (text, rest)
    | none => faultAt .invalidUnicode (s.drop (valid + 1))

theorem string_shorter {s : List UInt8} {a r} (h : string s = .ok (a, r)) :
    r.length < s.length := by
  unfold string at h
  split at h
  · cases h
  · rename_i hs
    simp only at h
    split at h
    · split at h
      · cases h
      · cases h; exact stringBytes_shorter hs
    · cases h

/-! ## Tokens -/

/-- A value that has no parts. -/
inductive Token where
  | null
  | boolean (b : Bool)
  | number (n : Number)
  | string (s : String)
  deriving DecidableEq, Repr

def Token.value : Token → Value
  | null => .null
  | boolean b => .boolean b
  | number n => .number n
  | string s => .string s

/-- The kind of a value, as an error names it. -/
def Value.found : Value → Found
  | .null => .null
  | .boolean b => .boolean b
  | .number (.integer i) => .integer i
  | .number (.float f) => .float f
  | .string s => .string s
  | .array _ => .sequence
  | .object _ => .map

def Token.found (t : Token) : Found := t.value.found

/-- The token that begins with the byte `b`. -/
def token (b : UInt8) (r : List UInt8) : Step Token :=
  match Char.ofNat b.toNat with
  | 'n' => (word [117, 108, 108] r).map fun t => (.null, t)
  | 't' => (word [114, 117, 101] r).map fun t => (.boolean true, t)
  | 'f' => (word [97, 108, 115, 101] r).map fun t => (.boolean false, t)
  | '"' => mapStep .string (string r)
  | '-' => mapStep .number (number false r)
  | _ => if isDigit b then mapStep .number (number true (b :: r)) else faultNext .expectedValue (b :: r)

theorem token_shorter {b : UInt8} {r : List UInt8} {a t} (h : token b r = .ok (a, t)) :
    t.length < (b :: r).length := by
  have hw : ∀ {ws : List UInt8} {k : Token},
      ((word ws r).map fun t => (k, t)) = (.ok (a, t) : Step Token) →
        t.length < (b :: r).length := by
    intro ws k h
    obtain ⟨u, hu, hr⟩ := map_eq_ok h
    cases hr
    exact Nat.lt_succ_of_le (word_length_le hu)
  unfold token at h
  split at h
  · exact hw h
  · exact hw h
  · exact hw h
  · obtain ⟨x, hx, -⟩ := mapStep_eq_ok h
    exact Nat.lt_succ_of_lt (string_shorter hx)
  · obtain ⟨x, hx, -⟩ := mapStep_eq_ok h
    exact Nat.lt_succ_of_lt (number_shorter hx)
  · split at h
    · obtain ⟨x, hx, -⟩ := mapStep_eq_ok h
      exact number_shorter hx
    · cases h

end MigrationClient.Json
