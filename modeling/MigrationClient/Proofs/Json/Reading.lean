import MigrationClient.Json.Variant
import MigrationClient.Proofs.Json.Token

/-!
# Reading spelled values

A reader takes a value for something if it reads every spelling of the value as this, and stops
behind it (`Takes`). What a plain value is taken for depends on its one token; an object is taken
for what its members make up one after the other (`Reads`, `takes_object`), and what has a tag for
the variant of this name (`takes_tagged`).
-/

namespace MigrationClient.Json

open Text

/-- That a reader reads a value as something, however it is spelled, and stops behind it. -/
def Takes (r : Reader α) (v : Value) (a : α) : Prop :=
  ∀ s rest, Begins v.tokens s rest → Ends rest → r.run s = .ok (a, rest)

variable {r : Reader α} {v : Value} {a : α} {s rest : List UInt8}

theorem Takes.map {f : α → β} (h : Takes r v a) : Takes (r.map f) v (f a) := by
  intro s rest hs hr
  change MigrationClient.Reader.mapStep f (r.run s) = _
  rw [h s rest hs hr]
  rfl

/-- A value that stands for itself is one token. -/
theorem begins_text (hv : v.isPlain = true) (h : Begins v.tokens s rest) :
    Begins [v.text] s rest := by
  cases v with
  | array | object => cases hv
  | _ => exact h

/-! ## Values without parts -/

/-- A word or a string is read as the token that it is. -/
theorem takes_scalar {expected : String} {accept : Token → Except Cause α} {t : Token}
    (ht : ∀ n, t ≠ .number n) (ha : accept t = .ok a) :
    Takes (.scalar expected accept) t.value a := by
  intro s rest hs _
  obtain ⟨b, r, hb, hspace, hbracket, htoken⟩ := token_text (s := rest) ht
  have hs : Begins [t.value.text] s rest := by
    cases t with
    | number n => exact absurd rfl (ht n)
    | _ => exact hs
  obtain ⟨m, hm, hnil⟩ := skipSpace_of_begins hs hb hspace
  cases hnil
  simp only [Reader.scalar, Shape.reader, Shape.run, hm, hbracket, htoken, ha]

theorem takes_string (s : String) : Takes Decoder.string.reader (.string s) s :=
  takes_scalar (t := .string s) (by simp) rfl

theorem takes_boolean (b : Bool) : Takes Decoder.boolean.reader (.boolean b) b :=
  takes_scalar (t := .boolean b) (by simp) rfl

theorem skipOpen_token {b : UInt8} {r t : List UInt8} (hs : skipSpace s = b :: r)
    (hb : Bracket.ofByte? b = none) (ht : skipToken b r = .ok t) :
    skipOpen [] .value s = .ok t := by
  rw [skipOpen]
  grind

/-- **A plain value is ignored as a whole.** -/
theorem takes_ignored (hv : v.isPlain = true) : Takes Reader.ignored v () := by
  intro s rest hs hr
  obtain ⟨b, r, hb, hspace, hbracket, hskip⟩ := skipToken_text hv hr
  obtain ⟨m, hm, hnil⟩ := skipSpace_of_begins (begins_text hv hs) hb hspace
  cases hnil
  change (skipOpen [] .value s).map _ = _
  rw [skipOpen_token hm hbracket hskip]
  rfl

/-! ## Values that may be missing -/

theorem takes_null (r : Reader α) : Takes r.nullable .null none := by
  intro s rest hs _
  have htext : Utf8.encode Value.null.text = [110, 117, 108, 108] := rfl
  obtain ⟨m, hm, hnil⟩ := skipSpace_of_begins (begins_text rfl hs) htext rfl
  cases hnil
  simp only [Reader.nullable, hm]
  change (word [117, 108, 108] ([117, 108, 108] ++ rest)).map _ = _
  rw [word_append]
  rfl

/-- That the spellings of a value begin with a byte, blanks aside. -/
def Value.Starts (v : Value) (b : UInt8) : Prop :=
  isSpace b = false ∧ ∃ t ts r, v.tokens = t :: ts ∧ Utf8.encode t = b :: r

theorem starts_string (s : String) : Value.Starts (.string s) 34 :=
  ⟨rfl, _, _, _, rfl, encode_stringText s⟩

theorem starts_object (ms : List (String × Value)) : Value.Starts (.object ms) 123 :=
  ⟨rfl, _, _, _, rfl, rfl⟩

theorem exists_starts_boolean (b : Bool) : ∃ c, Value.Starts (.boolean b) c ∧ c ≠ 110 := by
  cases b with
  | false => exact ⟨102, ⟨rfl, _, _, _, rfl, rfl⟩, by decide⟩
  | true => exact ⟨116, ⟨rfl, _, _, _, rfl, rfl⟩, by decide⟩

theorem Takes.nullable {b : UInt8} (h : Takes r v a) (hb : v.Starts b) (hne : b ≠ 110) :
    Takes r.nullable v (some a) := by
  intro s rest hs hr
  have hrun := h s rest hs hr
  obtain ⟨hspace, t, ts, u, hv, ht⟩ := hb
  rw [hv] at hs
  obtain ⟨m, hm, -⟩ := skipSpace_of_begins hs ht hspace
  simp only [Reader.nullable]
  split
  · next h =>
    rw [hm] at h
    cases h
    exact absurd rfl hne
  · rw [hrun]
    rfl

/-! ## Members -/

/-- What some members one after the other make of what has been read so far. -/
inductive Reads (step : σ → String → Except Cause (Reader σ)) :
    σ → List (String × Value) → σ → Prop
  | nil {st : σ} : Reads step st [] st
  | cons {st st' st'' : σ} {k : String} {v : Value} {r : Reader σ} {ms : List (String × Value)} :
    step st k = .ok r → Takes r v st' → Reads step st' ms st'' → Reads step st ((k, v) :: ms) st''

variable {step : σ → String → Except Cause (Reader σ)} {st st' : σ} {k : String}
  {ms : List (String × Value)} {first : Bool}

theorem encode_opening : Utf8.encode ['\x7b'] = [123] := rfl

theorem encode_closing : Utf8.encode ['\x7d'] = [125] := rfl

theorem encode_comma : Utf8.encode [','] = [44] := rfl

theorem encode_colon : Utf8.encode [':'] = [58] := rfl

theorem hasMember_of_end (h : Begins [['\x7d']] s rest) :
    hasMember first s = .ok (false, 125 :: rest) := by
  obtain ⟨m, hm, hnil⟩ := skipSpace_of_begins h encode_closing rfl
  cases hnil
  simp [hasMember, hm]

/-- A member begins with its key, behind a comma if it is not the first. -/
theorem hasMember_of_member {ts : List (List Char)}
    (h : Begins ((if first then [] else [[',']]) ++ stringText k :: ts) s rest) :
    ∃ m, hasMember first s =
        .ok (true, Utf8.encode (k.toList.flatMap escapeChar) ++ 34 :: m) ∧
      Begins ts m rest := by
  cases first with
  | true =>
    obtain ⟨m, hm, hts⟩ := skipSpace_of_begins h (encode_stringText k) rfl
    refine ⟨m, ?_, hts⟩
    rw [hasMember, hm]
    simp
  | false =>
    obtain ⟨u, hu, hkey⟩ := skipSpace_of_begins h encode_comma rfl
    obtain ⟨m, hm, hts⟩ := skipSpace_of_begins hkey (encode_stringText k) rfl
    refine ⟨m, ?_, hts⟩
    rw [hasMember, hu]
    simp [hm]

theorem colon_of_begins {ts : List (List Char)} (h : Begins ([':'] :: ts) s rest) :
    ∃ m, colon s = .ok m ∧ Begins ts m rest := by
  obtain ⟨m, hm, hts⟩ := skipSpace_of_begins h encode_colon rfl
  refine ⟨m, ?_, hts⟩
  rw [colon, hm]
  rfl

/-- A text that begins with a token of which no byte continues a number. -/
theorem ends_of_begins {t : List Char} {ts : List (List Char)} {b : UInt8} {u : List UInt8}
    (h : Begins (t :: ts) s rest) (ht : Utf8.encode t = b :: u) (hb : Ends [b]) : Ends s := by
  cases h with
  | @cons _ _ blanks s _ hblanks h =>
    cases blanks with
    | nil =>
      rw [List.nil_append, ht]
      exact ends_cons.2 (ends_cons.1 hb)
    | cons c blanks =>
      have hc : Ends [c] := ends_blanks (by simpa using hblanks c List.mem_cons_self)
      exact ends_cons.2 (ends_cons.1 hc)

/-- Behind a member stands a comma or the closing bracket. -/
theorem ends_of_members (h : Begins (membersTokens false ms ++ [['\x7d']]) s rest) : Ends s := by
  cases ms with
  | nil => exact ends_of_begins h encode_closing (ends_cons.2 (by decide))
  | cons m ms => exact ends_of_begins h encode_comma (ends_cons.2 (by decide))

theorem readMembers_end (hm : hasMember first s = .ok (false, rest)) :
    readMembers step first st s = .ok (st, rest) := by
  rw [readMembers]
  grind

/-- One member is its key, a colon and its value, and then the others follow. -/
theorem readMembers_member {r : Reader σ} {t u x w : List UInt8}
    (hm : hasMember first s = .ok (true, t)) (hk : string t = .ok (k, u))
    (hstep : step st k = .ok r) (hc : colon u = .ok x) (hv : r.run x = .ok (st', w)) :
    readMembers step first st s = readMembers step false st' w := by
  conv => lhs; rw [readMembers]
  grind

/-- **Members are read one after the other**, up to the closing bracket. -/
theorem readMembers_of_reads (h : Reads step st ms st')
    (hs : Begins (membersTokens first ms ++ [['\x7d']]) s rest) :
    readMembers step first st s = .ok (st', 125 :: rest) := by
  induction h generalizing first s with
  | nil => exact readMembers_end (hasMember_of_end hs)
  | @cons st st' st'' k v r ms hstep hv _ ih =>
    simp only [membersTokens, List.append_assoc, List.cons_append] at hs
    obtain ⟨t, ht, hs⟩ := hasMember_of_member hs
    obtain ⟨u, hu, hs⟩ := colon_of_begins hs
    obtain ⟨w, hw, hs⟩ := begins_append.1 hs
    have hvalue := hv u w hw (ends_of_members hs)
    rw [readMembers_member ht (string_flatMap k) hstep hu hvalue]
    exact ih hs

/-! ## Objects -/

/-- **An object is read as what its members make up.** -/
theorem takes_object {sh : Shape α} {start st : σ} {finish : σ → Except Cause α}
    (hsh : sh.object = some (.members step start finish)) (h : Reads step start ms st)
    (hf : finish st = .ok a) : Takes sh.reader (.object ms) a := by
  intro s rest hs _
  obtain ⟨m, hm, hms⟩ := skipSpace_of_begins hs encode_opening rfl
  have hmembers := readMembers_of_reads h hms
  have hbody : (Body.members step start finish).run m = .ok (a, 125 :: rest) := by
    simp only [Body.members, hmembers, hf]
  have hclose : Bracket.object.close (125 :: rest) = .ok rest := rfl
  have hbracket : Bracket.ofByte? 123 = some .object := rfl
  simp only [Shape.reader, Shape.run, hm, List.nil_append, hbracket, Shape.body, hsh,
    Body.enclosed, hbody, hclose]
  rfl

/-! ## Variants -/

variable {vs : Variants α} {name : String}

/-- A variant that stands for a value is read from its name. -/
theorem takes_bare (h : vs.find? name = .ok (.unit a)) : Takes vs.reader (.string name) a := by
  intro s rest hs _
  obtain ⟨m, hm, hnil⟩ := skipSpace_of_begins hs (encode_stringText name) rfl
  cases hnil
  change vs.read s = _
  rw [Variants.read, hm]
  simp only [if_true, Variants.bare, List.append_assoc, List.singleton_append, string_flatMap, h]

/-- A variant with content is read from the object of its name and its content. -/
theorem takes_tagged {variant : Variant α} (h : vs.find? name = .ok variant)
    (hv : Takes (Variants.Variant.reader variant) v a) : Takes vs.reader (.object [(name, v)]) a := by
  intro s rest hs _
  simp only [Value.tokens, membersTokens, if_true, List.nil_append, List.append_nil,
    List.cons_append] at hs
  obtain ⟨m, hm, hs⟩ := skipSpace_of_begins hs encode_opening rfl
  obtain ⟨t, ht, hs⟩ := begins_append.1 (show Begins ([stringText name] ++ _) m rest from hs)
  obtain ⟨u, hu, hvalue⟩ := colon_of_begins hs
  obtain ⟨w, hw, hend⟩ := begins_append.1 hvalue
  obtain ⟨x, hx, hnil⟩ := skipSpace_of_begins hend encode_closing rfl
  cases hnil
  have hcolon : Ends t := ends_of_begins hs encode_colon (ends_cons.2 (by decide))
  have hclosing : Ends w := ends_of_begins hend encode_closing (ends_cons.2 (by decide))
  have hread : vs.tag.run m = .ok (Variants.Variant.reader variant, t) := by
    refine takes_scalar (t := .string name) (by simp) ?_ m t ht hcolon
    simp only [h]
    rfl
  change vs.read s = _
  rw [Variants.read, hm]
  simp [Variants.tagged, hread, hu, hv u w hw hclosing, hx]

end MigrationClient.Json
