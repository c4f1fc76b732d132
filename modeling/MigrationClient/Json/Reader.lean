import MigrationClient.Json.Token

/-!
# Reading JSON values

A `Reader` takes one value off the front of a byte sequence, and always takes something: this is
what every loop over items or members terminates by. A reader is given by a `Shape`: what it
makes of a token, of an array and of an object.

A fault about the shape of a value is placed where reading stands once the value has been left
behind. All other faults are placed where they are noticed.
-/

namespace MigrationClient.Json

open Text Reader

/-- Reads one value. -/
abbrev Reader (α : Type) := MigrationClient.Reader UInt8 Fault α

/-- Reads what stands between two brackets, up to the closing one. -/
structure Body (α : Type) where
  run : List UInt8 → Step α
  notLonger : ∀ {s a r}, run s = .ok (a, r) → r.length ≤ s.length

/-- A fault about the shape of the value that is being read. -/
def faultOfShape (cause : Cause) (rest : List UInt8) : Except Fault α :=
  .error ⟨cause, rest.length, false⟩

/-! ## Brackets -/

inductive Bracket where
  | list | object
  deriving DecidableEq, Repr

def Bracket.closing : Bracket → UInt8
  | list => 93
  | object => 125

def Bracket.eof : Bracket → Cause
  | list => .eofInList
  | object => .eofInObject

def Bracket.expectedEnd : Bracket → Cause
  | list => .expectedListEnd
  | object => .expectedObjectEnd

/-- The bytes after the closing bracket, which has to follow. -/
def Bracket.close (k : Bracket) (s : List UInt8) : Except Fault (List UInt8) :=
  match skipSpace s with
  | [] => faultNext k.eof []
  | b :: r =>
    if b = k.closing then .ok r
    else if b = 44 then
      match k with
      | .object => faultNext .trailingComma (b :: r)
      | .list =>
        let t := skipSpace r
        faultNext (if t.head? = some 93 then .trailingComma else .trailingCharacters) t
    else faultNext .trailingCharacters (b :: r)

/-- Where reading stands after a look for the closing bracket. -/
def Bracket.settle (k : Bracket) (s : List UInt8) : List UInt8 :=
  match skipSpace s with
  | [] => []
  | b :: r =>
    if b = k.closing then r
    else if b = 44 ∧ k = .list then skipSpace r
    else b :: r

/-- The fault as it leaves a value that began before `s`. -/
def Fault.leave (k : Bracket) (s : List UInt8) (f : Fault) : Fault :=
  if f.placed then f
  else { f with left := (k.settle (s.drop (s.length - f.left))).length, placed := true }

/-- What stands between two brackets, and the closing one. -/
def Body.enclosed (k : Bracket) (body : Body α) (s : List UInt8) : Step α :=
  match body.run s with
  | .error f => .error (f.leave k s)
  | .ok (a, t) => (k.close t).map fun r => (a, r)

theorem Bracket.close_length_le {k : Bracket} {s r : List UInt8} (h : k.close s = .ok r) :
    r.length ≤ s.length := by
  have hs := skipSpace_length_le s
  unfold close at h
  split at h
  · cases h
  · rename_i b t ht
    rw [ht, List.length_cons] at hs
    split at h
    · cases h; omega
    · split at h
      · split at h <;> cases h
      · cases h

theorem Body.enclosed_length_le {k : Bracket} {body : Body α} {s a r}
    (h : body.enclosed k s = .ok (a, r)) : r.length ≤ s.length := by
  unfold enclosed at h
  split at h
  · cases h
  · rename_i a' t ht
    obtain ⟨u, hu, hr⟩ := map_eq_ok h
    cases hr
    have h1 := body.notLonger ht
    have h2 := Bracket.close_length_le hu
    omega

/-! ## Items -/

/-- Whether an item follows, and the bytes from it or from the closing bracket on. -/
def hasItem (first : Bool) (s : List UInt8) : Step Bool :=
  match skipSpace s with
  | [] => faultNext .eofInList []
  | b :: r =>
    if b = 93 then .ok (false, b :: r)
    else if first then .ok (true, b :: r)
    else if b = 44 then
      match skipSpace r with
      | [] => faultNext .eofInValue []
      | c :: t => if c = 93 then faultNext .trailingComma (c :: t) else .ok (true, c :: t)
    else faultNext .expectedListEnd (b :: r)

theorem hasItem_length_le {first : Bool} {s : List UInt8} {x r}
    (h : hasItem first s = .ok (x, r)) : r.length ≤ s.length := by
  have hs := skipSpace_length_le s
  unfold hasItem at h
  split at h
  · cases h
  · rename_i b t ht
    rw [ht] at hs
    split at h
    · cases h; exact hs
    · split at h
      · cases h; exact hs
      · split at h
        · split at h
          · cases h
          · rename_i c u hu
            have h2 := skipSpace_length_le t
            rw [hu] at h2
            split at h
            · cases h
            · cases h; simp only [List.length_cons] at *; omega
        · cases h

/-- All items up to the closing bracket. -/
def readItems (item : Reader α) (first : Bool) (s : List UInt8) : Step (List α) :=
  match _h : hasItem first s with
  | .error f => .error f
  | .ok (false, r) => .ok ([], r)
  | .ok (true, r) =>
    match _h' : item.run r with
    | .error f => .error f
    | .ok (a, t) => mapStep (a :: ·) (readItems item false t)
  termination_by s.length
  decreasing_by
    have := hasItem_length_le _h
    have := item.shorter _h'
    omega

theorem readItems_length_le {item : Reader α} {first : Bool} {s : List UInt8} {as r}
    (h : readItems item first s = .ok (as, r)) : r.length ≤ s.length := by
  fun_induction readItems item first s generalizing as r with
  | case1 => cases h
  | case2 first s r' hi => cases h; exact hasItem_length_le hi
  | case3 => cases h
  | case4 first s r' hi a t ha ih =>
    obtain ⟨as', hx, -⟩ := mapStep_eq_ok h
    have h1 := hasItem_length_le hi
    have h2 := item.shorter ha
    have h3 := ih hx
    omega

def Body.items (item : Reader α) : Body (List α) := ⟨readItems item true, readItems_length_le⟩

/-- The item at a place that has to be there. -/
def readItem (item : Reader α) (index : Nat) (expected : String) (s : List UInt8) : Step α :=
  match hasItem (index = 0) s with
  | .error f => .error f
  | .ok (false, r) => faultOfShape (.invalidLength index expected) r
  | .ok (true, r) => item.run r

theorem readItem_length_le {item : Reader α} {i : Nat} {e : String} {s : List UInt8} {a r}
    (h : readItem item i e s = .ok (a, r)) : r.length ≤ s.length := by
  unfold readItem at h
  split at h
  · cases h
  · cases h
  · rename_i t ht
    have h1 := hasItem_length_le ht
    have h2 := item.shorter h
    omega

/-- The item at a place. -/
def Body.item (item : Reader α) (index : Nat) (expected : String) : Body α :=
  ⟨readItem item index expected, readItem_length_le⟩

/-- An item and then the rest of a body, which knows that an item stands before it. -/
def Body.andThen (first : Body α) (second : Body β) : Body (α × β) where
  run s :=
    match first.run s with
    | .error f => .error f
    | .ok (a, t) => mapStep (a, ·) (second.run t)
  notLonger {s a r} h := by
    split at h
    · cases h
    · rename_i a' t ht
      obtain ⟨b, hb, -⟩ := mapStep_eq_ok h
      have h1 := first.notLonger ht
      have h2 := second.notLonger hb
      omega

def Body.map (f : α → β) (body : Body α) : Body β where
  run s := mapStep f (body.run s)
  notLonger h := by
    obtain ⟨a, ha, -⟩ := mapStep_eq_ok h
    exact body.notLonger ha

/-- A body that is refused. -/
def Body.refuse (cause : Cause) : Body α := ⟨faultAt cause, fun h => by cases h⟩

/-! ## Members -/

/-- Whether a member follows, and the bytes after the quote of its key or from the closing bracket
on. -/
def hasMember (first : Bool) (s : List UInt8) : Step Bool :=
  match skipSpace s with
  | [] => faultNext .eofInObject []
  | b :: r =>
    if b = 125 then .ok (false, b :: r)
    else if first then
      if b = 34 then .ok (true, r) else faultNext .keyNotString (b :: r)
    else if b = 44 then
      match skipSpace r with
      | [] => faultNext .eofInValue []
      | c :: t =>
        if c = 34 then .ok (true, t)
        else faultNext (if c = 125 then .trailingComma else .keyNotString) (c :: t)
    else faultNext .expectedObjectEnd (b :: r)

theorem hasMember_length_le {first : Bool} {s : List UInt8} {x r}
    (h : hasMember first s = .ok (x, r)) : r.length ≤ s.length := by
  have hs := skipSpace_length_le s
  unfold hasMember at h
  split at h
  · cases h
  · rename_i b t ht
    rw [ht] at hs
    simp only [List.length_cons] at hs
    split at h
    · cases h; simp only [List.length_cons]; omega
    · split at h
      · split at h
        · cases h; omega
        · cases h
      · split at h
        · split at h
          · cases h
          · rename_i c u hu
            have h2 := skipSpace_length_le t
            rw [hu] at h2
            simp only [List.length_cons] at h2
            split at h
            · cases h; omega
            · cases h
        · cases h

/-- The bytes after the colon, which has to follow a key. -/
def colon (s : List UInt8) : Except Fault (List UInt8) :=
  match skipSpace s with
  | [] => faultNext .eofInObject []
  | b :: r => if b = 58 then .ok r else faultNext .expectedColon (b :: r)

theorem colon_length_le {s r : List UInt8} (h : colon s = .ok r) : r.length ≤ s.length := by
  have hs := skipSpace_length_le s
  unfold colon at h
  split at h
  · cases h
  · rename_i b t ht
    rw [ht, List.length_cons] at hs
    split at h
    · cases h; omega
    · cases h

/-- One member after another: `step` says which reader the value of a key has. -/
def readMembers (step : σ → String → Except Cause (Reader σ)) (first : Bool) (st : σ)
    (s : List UInt8) : Step σ :=
  match _h : hasMember first s with
  | .error f => .error f
  | .ok (false, r) => .ok (st, r)
  | .ok (true, r) =>
    match _hk : string r with
    | .error f => .error f
    | .ok (key, t) =>
      match step st key with
      | .error c => faultOfShape c t
      | .ok value =>
        match _hc : colon t with
        | .error f => .error f
        | .ok u =>
          match _hv : value.run u with
          | .error f => .error f
          | .ok (st, v) => readMembers step false st v
  termination_by s.length
  decreasing_by
    have := hasMember_length_le _h
    have := string_shorter _hk
    have := colon_length_le _hc
    have := value.shorter _hv
    omega

theorem readMembers_length_le {step : σ → String → Except Cause (Reader σ)} {first : Bool}
    {st : σ} {s : List UInt8} {x r} (h : readMembers step first st s = .ok (x, r)) :
    r.length ≤ s.length := by
  fun_induction readMembers step first st s generalizing x r with
  | case1 => cases h
  | case2 first st s r' hm => cases h; exact hasMember_length_le hm
  | case3 => cases h
  | case4 => cases h
  | case5 => cases h
  | case6 => cases h
  | case7 first st s r' hm key t hk value hs u hc st' v hv ih =>
    have h1 := hasMember_length_le hm
    have h2 := string_shorter hk
    have h3 := colon_length_le hc
    have h4 := value.shorter hv
    have h5 := ih h
    omega

/-- All members; `finish` says what they make up. -/
def Body.members (step : σ → String → Except Cause (Reader σ)) (start : σ)
    (finish : σ → Except Cause α) : Body α where
  run s :=
    match readMembers step true start s with
    | .error f => .error f
    | .ok (st, r) =>
      match finish st with
      | .error c => faultOfShape c r
      | .ok a => .ok (a, r)
  notLonger {s a r} h := by
    split at h
    · cases h
    · rename_i st t ht
      split at h
      · cases h
      · cases h; exact readMembers_length_le ht

/-! ## Shapes -/

/-- How a value is read: what a token is worth, and what may stand in brackets, if anything. -/
structure Shape (α : Type) where
  expected : String
  token : Token → Except Cause α
  list : Option (Body α)
  object : Option (Body α)

def Shape.body (sh : Shape α) : Bracket → Option (Body α)
  | .list => sh.list
  | .object => sh.object

def Bracket.found : Bracket → Found
  | list => .sequence
  | object => .map

/-- The bracket that a byte opens. -/
def Bracket.ofByte? (b : UInt8) : Option Bracket :=
  if b = 91 then some list else if b = 123 then some object else none

def Shape.run (sh : Shape α) (s : List UInt8) : Step α :=
  match skipSpace s with
  | [] => faultNext .eofInValue []
  | b :: r =>
    match Bracket.ofByte? b with
    | some k =>
      match sh.body k with
      | some body => body.enclosed k r
      | none => faultAt (.invalidType k.found sh.expected) (b :: r)
    | none =>
      match Json.token b r with
      | .error f => .error f
      | .ok (t, rest) =>
        match sh.token t with
        | .ok a => .ok (a, rest)
        | .error c => faultAt c rest

theorem Shape.run_shorter {sh : Shape α} {s : List UInt8} {a r} (h : sh.run s = .ok (a, r)) :
    r.length < s.length := by
  have hs := skipSpace_length_le s
  unfold Shape.run at h
  split at h
  · cases h
  · rename_i b t ht
    rw [ht] at hs
    split at h
    · split at h
      · have := Body.enclosed_length_le h
        simp only [List.length_cons] at hs; omega
      · cases h
    · split at h
      · cases h
      · rename_i tok rest hr
        have := token_shorter hr
        split at h
        · cases h; omega
        · cases h

/-- The reader of a shape. -/
def Shape.reader (sh : Shape α) : Reader α := ⟨sh.run, Shape.run_shorter⟩

/-- A shape that takes no token. -/
def noToken (expected : String) (t : Token) : Except Cause α :=
  .error (.invalidType t.found expected)

namespace Reader

/-- A value without parts. -/
def scalar (expected : String) (accept : Token → Except Cause α) : Reader α :=
  Shape.reader ⟨expected, accept, none, none⟩

/-- `null`, or a value of the given kind. -/
def nullable (r : Reader α) : Reader (Option α) where
  run s :=
    match skipSpace s with
    | 110 :: t => (word [117, 108, 108] t).map fun u => (none, u)
    | _ => mapStep some (r.run s)
  shorter {s a t} h := by
    have hs := skipSpace_length_le s
    split at h
    · rename_i u hu
      rw [hu, List.length_cons] at hs
      obtain ⟨v, hv, hr⟩ := map_eq_ok h
      cases hr
      have := word_length_le hv
      omega
    · obtain ⟨x, hx, -⟩ := mapStep_eq_ok h
      exact r.shorter hx

end Reader

/-! ## Any value -/

/-- How many brackets may stand within each other. -/
def maxDepth : Nat := 127

/-- Any value, with at most so many brackets within each other. -/
def anyValue : Nat → Reader Value
  | 0 =>
    Shape.reader ⟨"any value", fun t => .ok t.value, some (.refuse .tooDeep), some (.refuse .tooDeep)⟩
  | depth + 1 =>
    let member := fun (ms : List (String × Value)) key =>
      (.ok ((anyValue depth).map fun v => insertMember key v ms) : Except Cause (Reader _))
    Shape.reader
      ⟨"any value", fun t => .ok t.value,
        some ((Body.items (anyValue depth)).map .array),
        some (Body.members member [] fun ms => .ok (.object ms))⟩

/-! ## Values that are passed over -/

/-- A number that is passed over, after its sign; only its form is looked at. -/
def skipExponent (s : List UInt8) : Except Fault (List UInt8) :=
  let s :=
    match s with
    | b :: r => if b = 43 ∨ b = 45 then r else s
    | [] => []
  match s with
  | b :: r => if isDigit b then .ok (r.dropWhile isDigit) else faultAt .invalidNumber r
  | [] => faultAt .invalidNumber []

/-- The exponent of a number, if one follows. -/
def skipExponentPart (s : List UInt8) : Except Fault (List UInt8) :=
  match s with
  | b :: r => if b = 101 ∨ b = 69 then skipExponent r else .ok s
  | [] => .ok []

/-- The fraction and the exponent of a number, if they follow. -/
def skipFraction (s : List UInt8) : Except Fault (List UInt8) :=
  match s with
  | 46 :: r =>
    if r.head?.any isDigit then skipExponentPart (r.dropWhile isDigit)
    else faultNext .invalidNumber r
  | _ => skipExponentPart s

def skipNumber (s : List UInt8) : Except Fault (List UInt8) :=
  match s with
  | [] => faultAt .invalidNumber []
  | b :: r =>
    if b = 48 then
      if r.head?.any isDigit then faultNext .invalidNumber r else skipFraction r
    else if isDigit b then skipFraction (r.dropWhile isDigit)
    else faultAt .invalidNumber r

/-- A string that is passed over, after its opening quote. -/
def skipString : List UInt8 → Except Fault (List UInt8)
  | [] => faultAt .eofInString []
  | 34 :: r => .ok r
  | 92 :: [] => faultAt .eofInString []
  | 92 :: 117 :: a :: b :: c :: d :: r =>
    if [a, b, c, d].all fun x => isHex (Char.ofNat x.toNat) then skipString r
    else faultAt .invalidEscape r
  | 92 :: 117 :: _ => faultAt .eofInString []
  | 92 :: b :: r => if (simpleEscape? b).isSome then skipString r else faultAt .invalidEscape r
  | b :: r => if b < 32 then faultAt .controlCharacter (b :: r) else skipString r

/-- A token that is passed over, which begins with the byte `b`. -/
def skipToken (b : UInt8) (r : List UInt8) : Except Fault (List UInt8) :=
  match Char.ofNat b.toNat with
  | 'n' => word [117, 108, 108] r
  | 't' => word [114, 117, 101] r
  | 'f' => word [97, 108, 115, 101] r
  | '"' => skipString r
  | '-' => skipNumber r
  | _ => if isDigit b then skipNumber (b :: r) else faultNext .expectedValue (b :: r)

/-- The key of a member and its colon, if what is passed over is an object. -/
def skipKey (k : Bracket) (s : List UInt8) : Except Fault (List UInt8) :=
  match k with
  | .list => .ok s
  | .object =>
    match skipSpace s with
    | [] => faultNext .eofInObject []
    | b :: r =>
      if b = 34 then
        match skipString r with
        | .error f => .error f
        | .ok t => colon t
      else faultNext .keyNotString (b :: r)

theorem skipExponent_length_le {s r : List UInt8} (h : skipExponent s = .ok r) :
    r.length ≤ s.length := by
  have key : ∀ t : List UInt8, t.length ≤ s.length →
      (match t with
        | b :: r =>
          if isDigit b then (.ok (r.dropWhile isDigit) : Except Fault (List UInt8))
          else faultAt .invalidNumber r
        | [] => faultAt .invalidNumber []) = .ok r →
      r.length ≤ s.length := by
    intro t ht h
    split at h
    · rename_i b u
      split at h
      · cases h
        have := length_dropWhile_le isDigit u
        simp only [List.length_cons] at ht; omega
      · cases h
    · cases h
  unfold skipExponent at h
  refine key _ ?_ h
  split
  · split <;> simp
  · simp

theorem skipExponentPart_length_le {s r : List UInt8} (h : skipExponentPart s = .ok r) :
    r.length ≤ s.length := by
  unfold skipExponentPart at h
  split at h
  · split at h
    · have := skipExponent_length_le h; simp only [List.length_cons]; omega
    · cases h; exact Nat.le_refl _
  · cases h; exact Nat.le_refl _

theorem skipFraction_length_le {s r : List UInt8} (h : skipFraction s = .ok r) :
    r.length ≤ s.length := by
  unfold skipFraction at h
  split at h
  · rename_i t
    split at h
    · have h1 := skipExponentPart_length_le h
      have h2 := length_dropWhile_le isDigit t
      simp only [List.length_cons]; omega
    · cases h
  · exact skipExponentPart_length_le h

theorem skipNumber_shorter {s r : List UInt8} (h : skipNumber s = .ok r) :
    r.length < s.length := by
  unfold skipNumber at h
  split at h
  · cases h
  · rename_i b t
    split at h
    · split at h
      · cases h
      · exact Nat.lt_succ_of_le (skipFraction_length_le h)
    · split at h
      · have h1 := skipFraction_length_le h
        have h2 := length_dropWhile_le isDigit t
        simp only [List.length_cons]; omega
      · cases h

theorem skipString_shorter {s r : List UInt8} (h : skipString s = .ok r) :
    r.length < s.length := by
  fun_induction skipString s with
  | case1 => cases h
  | case2 => cases h; simp
  | case3 => cases h
  | case4 a b c d t _ ih => have := ih h; simp only [List.length_cons]; omega
  | case5 => cases h
  | case6 => cases h
  | case7 b t _ _ _ ih => have := ih h; simp only [List.length_cons]; omega
  | case8 => cases h
  | case9 => cases h
  | case10 b t _ _ _ _ _ _ ih => have := ih h; simp only [List.length_cons]; omega

theorem skipToken_shorter {b : UInt8} {r t : List UInt8} (h : skipToken b r = .ok t) :
    t.length < (b :: r).length := by
  unfold skipToken at h
  split at h
  · exact Nat.lt_succ_of_le (word_length_le h)
  · exact Nat.lt_succ_of_le (word_length_le h)
  · exact Nat.lt_succ_of_le (word_length_le h)
  · exact Nat.lt_succ_of_lt (skipString_shorter h)
  · exact Nat.lt_succ_of_lt (skipNumber_shorter h)
  · split at h
    · exact skipNumber_shorter h
    · cases h

theorem skipKey_length_le {k : Bracket} {s r : List UInt8} (h : skipKey k s = .ok r) :
    r.length ≤ s.length := by
  have hs := skipSpace_length_le s
  unfold skipKey at h
  split at h
  · cases h; exact Nat.le_refl _
  · split at h
    · cases h
    · rename_i b t ht
      rw [ht, List.length_cons] at hs
      split at h
      · split at h
        · cases h
        · rename_i u hu
          have h1 := skipString_shorter hu
          have h2 := colon_length_le h
          omega
      · cases h

/-- What is expected while a value is passed over: a value, what follows an opened bracket, or
what follows a value within brackets. -/
inductive Expectation where
  | value | opened | after
  deriving DecidableEq, Repr

/-- Passes over the rest of a value of which some brackets are not yet closed, the innermost
first. -/
def skipOpen (brackets : List Bracket) (x : Expectation) (s : List UInt8) :
    Except Fault (List UInt8) :=
  match brackets, x with
  | ks, .value =>
    match _h : skipSpace s with
    | [] => faultNext .eofInValue []
    | b :: r =>
      match Bracket.ofByte? b with
      | some k => skipOpen (k :: ks) .opened r
      | none =>
        match _ht : skipToken b r with
        | .error f => .error f
        | .ok t => if ks.isEmpty then .ok t else skipOpen ks .after t
  | [], _ => .ok s
  | k :: ks, .opened =>
    match _h : skipSpace s with
    | [] => faultNext k.eof []
    | b :: r =>
      if b = k.closing then
        if ks.isEmpty then .ok r else skipOpen ks .after r
      else
        match _hk : skipKey k (b :: r) with
        | .error f => .error f
        | .ok t => skipOpen (k :: ks) .value t
  | k :: ks, .after =>
    match _h : skipSpace s with
    | [] => faultNext k.eof []
    | b :: r =>
      if b = k.closing then
        if ks.isEmpty then .ok r else skipOpen ks .after r
      else if b = 44 then
        match _hk : skipKey k r with
        | .error f => .error f
        | .ok t => skipOpen (k :: ks) .value t
      else faultNext k.expectedEnd (b :: r)
  termination_by 2 * s.length + (if x = .opened then 1 else 0)
  decreasing_by
    all_goals
      have hs := skipSpace_length_le s
      rw [_h] at hs
      simp only [List.length_cons] at hs
    · simp; omega
    · have := skipToken_shorter _ht; simp only [List.length_cons] at this; simp; omega
    · simp; omega
    · have := skipKey_length_le _hk; simp only [List.length_cons] at this; simp; omega
    · simp; omega
    · have := skipKey_length_le _hk; simp; omega

theorem length_lt_of_skipSpace {s r : List UInt8} {b : UInt8} (h : skipSpace s = b :: r) :
    r.length < s.length := by
  have hs := skipSpace_length_le s
  rw [h, List.length_cons] at hs
  exact hs

theorem skipOpen_length_le {ks : List Bracket} {x : Expectation} {s r : List UInt8}
    (h : skipOpen ks x s = .ok r) : r.length ≤ s.length := by
  fun_induction skipOpen ks x s
  case case1 | case3 | case7 | case10 | case12 | case15 | case17 => cases h
  case case6 => cases h; exact Nat.le_refl _
  case case2 hs _ _ ih | case9 _ hs ih | case14 _ hs ih =>
    have h1 := length_lt_of_skipSpace hs
    have h2 := ih h
    omega
  case case8 hs | case13 hs =>
    cases h
    exact Nat.le_of_lt (length_lt_of_skipSpace hs)
  case case4 hs _ u hu _ =>
    cases h
    have h1 := length_lt_of_skipSpace hs
    have h2 := skipToken_shorter hu
    simp only [List.length_cons] at h2
    omega
  case case5 hs _ u hu _ ih =>
    have h1 := length_lt_of_skipSpace hs
    have h2 := skipToken_shorter hu
    have h3 := ih h
    simp only [List.length_cons] at h2
    omega
  case case11 hs _ u hu ih =>
    have h1 := length_lt_of_skipSpace hs
    have h2 := skipKey_length_le hu
    have h3 := ih h
    simp only [List.length_cons] at h2
    omega
  case case16 u hu hs _ ih =>
    have h1 := length_lt_of_skipSpace hs
    have h2 := skipKey_length_le hu
    have h3 := ih h
    omega

theorem skipOpen_value_shorter {ks : List Bracket} {s r : List UInt8}
    (h : skipOpen ks .value s = .ok r) : r.length < s.length := by
  have hs := skipSpace_length_le s
  unfold skipOpen at h
  split at h
  · cases h
  · rename_i b t ht
    rw [ht] at hs
    simp only [List.length_cons] at hs
    split at h
    · have := skipOpen_length_le h; omega
    · split at h
      · cases h
      · rename_i u hu
        have h1 := skipToken_shorter hu
        simp only [List.length_cons] at h1
        split at h
        · cases h; omega
        · have := skipOpen_length_le h; omega

/-- Any value, of which only the form is looked at. -/
def Reader.ignored : Reader Unit where
  run s := (skipOpen [] .value s).map fun r => ((), r)
  shorter h := by
    obtain ⟨t, ht, hr⟩ := map_eq_ok h
    cases hr
    exact skipOpen_value_shorter ht

/-! ## Whole texts -/

/-- The value of a whole text. -/
def Reader.readAll (r : Reader α) (text : List UInt8) : Except Report α :=
  match r.run text with
  | .error f => .error (f.report text)
  | .ok (a, rest) =>
    match skipSpace rest with
    | [] => .ok a
    | t => .error (Fault.report text ⟨.trailingCharacters, t.length - 1, true⟩)

end MigrationClient.Json
