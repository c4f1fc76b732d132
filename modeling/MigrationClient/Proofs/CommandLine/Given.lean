import MigrationClient.CommandLine.Parser
import MigrationClient.CommandLine.Printer

/-!
# What a command line gives

A command line that is accepted is a list of options, each spelled in one of three ways, then the
name of a subcommand and its arguments: a `Line`. Parsing looks at the value of an option later
than at its name, but what comes of it is as if each option were taken as it is read
(`exists_line`). So **all that a line gives is in its options** (`parse_line`): the file that is
named is the value of `--config`, and the endpoint the value of `--endpoint` or else of the
variable.
-/

namespace MigrationClient.CommandLine

open Text

/-! ## Words -/

theorem argument_eq (o : LongOption) (value : Option (List UInt8)) :
    o.argument value =
      45 :: 45 :: (Utf8.ofString o.name ++ (value.map fun v => 61 :: v).getD []) := by
  cases o <;> rfl

theorem ofName?_name (o : LongOption) : LongOption.ofName? (Utf8.ofString o.name) = some o := by
  cases o <;> decide

theorem name_of_ofName? {name : List UInt8} {o : LongOption}
    (h : LongOption.ofName? name = some o) : name = Utf8.ofString o.name := by
  unfold LongOption.ofName? at h
  have hname := List.find?_some h
  exact (of_decide_eq_true hname).symm

theorem ne_equals_of_mem_name (o : LongOption) : ∀ b ∈ Utf8.ofString o.name, b ≠ 61 := by
  cases o <;> decide +kernel

theorem choice_of_name (c : Subcommand) :
    Choice.ofName? (Utf8.ofString c.name) = some (.run c) := by
  cases c <;> decide

theorem name_of_choice {a : List UInt8} {c : Subcommand} (h : Choice.ofName? a = some (.run c)) :
    a = Utf8.ofString c.name := by
  unfold Choice.ofName? Subcommand.ofName? at h
  split at h
  · next d hd =>
    cases h
    have hname := List.find?_some hd
    exact (of_decide_eq_true hname).symm
  · split at h <;> cases h

/-- What begins with a dash is no subcommand. -/
theorem choice_of_dash (r : List UInt8) : Choice.ofName? (45 :: r) = none := by
  have hc : Subcommand.ofName? (45 :: r) = none := by
    refine List.find?_eq_none.2 fun c _ hc => ?_
    rw [decide_eq_true_eq] at hc
    cases c <;> cases hc
  have hh : ¬ Utf8.ofString helpName = 45 :: r := fun hc => nomatch hc
  rw [Choice.ofName?, hc]
  exact if_neg hh

theorem splitLong_append {name : List UInt8} (h : ∀ b ∈ name, b ≠ 61)
    (value : Option (List UInt8)) :
    splitLong (name ++ (value.map fun v => 61 :: v).getD []) = (name, value) := by
  have hname : (name ++ (value.map fun v => 61 :: v).getD []).takeWhile (· ≠ 61) = name := by
    rw [List.takeWhile_append_of_pos (by simpa using h)]
    cases value <;> simp
  unfold splitLong
  rw [hname]
  cases value <;> simp

theorem splitLong_join (r : List UInt8) :
    r = (splitLong r).1 ++ ((splitLong r).2.map fun v => 61 :: v).getD [] := by
  have hcut := List.takeWhile_append_dropWhile (p := fun b : UInt8 => decide (b ≠ 61)) (l := r)
  have hdrop : ∀ s t : List UInt8, s ++ t = r → r.drop s.length = t := by
    rintro s t rfl
    exact List.drop_left
  have hend := List.head?_dropWhile_not (fun b : UInt8 => decide (b ≠ 61)) r
  unfold splitLong
  simp only [← List.drop_drop, hdrop _ _ hcut]
  cases hd : r.dropWhile (· ≠ 61) with
  | nil =>
    rw [hd] at hcut
    exact hcut.symm
  | cons b t =>
    rw [hd] at hcut hend
    obtain rfl : b = 61 := by simpa using hend
    exact hcut.symm

theorem ofBytes_argument (o : LongOption) (value : Option (List UInt8)) :
    Argument.ofBytes (o.argument value) = .long (Utf8.ofString o.name) value := by
  obtain ⟨b, r, hr⟩ : ∃ b r, Utf8.ofString o.name = b :: r := by
    cases o <;> exact ⟨_, _, rfl⟩
  have hsplit := splitLong_append (ne_equals_of_mem_name o) value
  rw [argument_eq]
  rw [hr, List.cons_append] at hsplit ⊢
  simp only [Argument.ofBytes, hsplit]

theorem eq_argument_of_long {a name : List UInt8} {value : Option (List UInt8)} {o : LongOption}
    (h : Argument.ofBytes a = .long name value) (ho : LongOption.ofName? name = some o) :
    a = o.argument value := by
  unfold Argument.ofBytes at h
  split at h
  · cases h
  · next r =>
    cases h
    rw [argument_eq, ← name_of_ofName? ho, ← splitLong_join]
  · cases h
  · cases h

/-! ## Lines -/

/-- An option as it is given: a flag, or an option with its value behind an equals sign or in an
argument of its own. -/
inductive Given where
  | flag (o : LongOption) (h : o.takesValue = false)
  | joined (o : LongOption) (value : List UInt8) (h : o.takesValue = true)
  | apart (o : LongOption) (value : List UInt8) (h : o.takesValue = true)

namespace Given

def option : Given → LongOption
  | flag o _ | joined o _ _ | apart o _ _ => o

/-- The value of the option; a flag has an empty one. -/
def value : Given → List UInt8
  | flag _ _ => []
  | joined _ v _ | apart _ v _ => v

def arguments : Given → List (List UInt8)
  | flag o _ => [o.argument none]
  | joined o v _ => [o.argument (some v)]
  | apart o v _ => [o.argument none, v]

end Given

/-- A command line behind the name of the program. -/
structure Line where
  given : List Given
  subcommand : Subcommand
  operands : List (List UInt8)

namespace Line

def arguments (l : Line) : List (List UInt8) :=
  l.given.flatMap Given.arguments ++ Utf8.ofString l.subcommand.name :: l.operands

/-- The value of an option in a line, if it is given there. -/
def value? (l : Line) (o : LongOption) : Option (List UInt8) :=
  (l.given.find? (·.option = o)).map (·.value)

end Line

/-! ## Reading options -/

variable {s : Start} {d : Draft} {p : Pending} {a : List UInt8} {args r : List (List UInt8)}
  {t : Settings}

theorem text_eq_ok_iff {v : List UInt8} {e : String} :
    Draft.text v = .ok e ↔ Utf8.toString? v = some e := by
  unfold Draft.text
  cases Utf8.toString? v <;> simp

/-- There are no settings without a subcommand. -/
theorem finish_none_ne_ok : finish s d none ≠ .ok t := by
  intro h
  simp only [finish] at h
  split at h
  all_goals
    obtain ⟨e, -, he⟩ := Reader.bind_eq_ok_iff.1 h
    split at he <;> cases he

/-- The endpoint is the one that was given, or else the value of the variable. -/
theorem finish_some {op : Operation} (h : finish s d (some op) = .ok t) :
    t.endpoint.map some = (d.endpoint.map some).or (s.endpoint?.map Utf8.toString?) ∧
      t.config = d.config ∧ t.verbose = d.verbose ∧ t.jsonLogs = d.jsonLogs ∧
      t.operation = op := by
  simp only [finish] at h
  split at h
  · next v hd hv =>
    obtain ⟨e, he, ht⟩ := Reader.bind_eq_ok_iff.1 h
    obtain ⟨text, htext, rfl⟩ := Reader.map_eq_ok he
    cases ht
    rw [hd, hv]
    simp [text_eq_ok_iff.1 htext]
  · next e hnone =>
    obtain ⟨e', he, ht⟩ := Reader.bind_eq_ok_iff.1 h
    cases he
    cases ht
    refine ⟨?_, rfl, rfl, rfl, rfl⟩
    cases hd : d.endpoint with
    | some e => rfl
    | none =>
      cases hv : s.endpoint? with
      | none => rfl
      | some v => exact absurd hv (hnone v hd)

theorem escaped_ne_ok : escaped s d p args ≠ .ok t := by
  intro h
  cases args with
  | nil =>
    obtain ⟨d', -, hd⟩ := Reader.bind_eq_ok_iff.1 h
    exact finish_none_ne_ok hd
  | cons a r =>
    simp only [escaped] at h
    split at h <;> cases h

/-- What may follow once everything before it is settled: a subcommand, a flag, the name of an
option whose value is to come, or an option with its value. -/
inductive Follows (s : Start) (d : Draft) (a : List UInt8) (r : List (List UInt8))
    (t : Settings) : Prop
  | subcommand (c : Subcommand) (op : Operation) : a = Utf8.ofString c.name →
      operation s c r = .ok op → finish s d (some op) = .ok t → Follows s d a r t
  | flag (o : LongOption) (d' : Draft) : o.takesValue = false → a = o.argument none →
      d.give o [] = .ok d' → options s d' .nothing r = .ok t → Follows s d a r t
  | name (o : LongOption) : o.takesValue = true → a = o.argument none →
      options s d (.awaiting o) r = .ok t → Follows s d a r t
  | joined (o : LongOption) (v : List UInt8) (d' : Draft) : o.takesValue = true →
      a = o.argument (some v) → d.give o v = .ok d' → options s d' .nothing r = .ok t →
      Follows s d a r t

theorem choice_of_dashed (h : Argument.ofBytes a ≠ .plain) : Choice.ofName? a = none := by
  unfold Argument.ofBytes at h
  split at h
  · exact choice_of_dash _
  · exact choice_of_dash _
  · exact choice_of_dash _
  · exact absurd rfl h

/-- **What one argument of an accepted line is**: the value that was awaited, or something that
may follow what is settled. -/
theorem options_cons (h : options s d p (a :: r) = .ok t) :
    (∃ o, p = .awaiting o ∧ options s d (.holding o a) r = .ok t) ∨
      ∃ d', d.settle p = .ok d' ∧ Follows s d' a r t := by
  cases ha : Argument.ofBytes a with
  | plain =>
    cases p with
    | awaiting o => exact .inl ⟨o, rfl, by simpa only [options, ha] using h⟩
    | _ =>
      right
      cases hc : Choice.ofName? a with
      | none => simp only [options, ha, hc] at h; cases h
      | some k =>
        cases k with
        | help => simp only [options, ha, hc] at h; cases h
        | run c =>
          simp only [options, ha, hc] at h
          obtain ⟨op, hop, h⟩ := Reader.bind_eq_ok_iff.1 h
          obtain ⟨d', hd, hf⟩ := Reader.bind_eq_ok_iff.1 h
          exact ⟨d', hd, .subcommand c op (name_of_choice hc) hop hf⟩
  | escape =>
    have hc := choice_of_dashed (a := a) (by simp [ha])
    refine absurd (?_ : escaped s d p r = .ok t) escaped_ne_ok
    cases p <;> simpa only [options, ha, hc] using h
  | short letter =>
    have hc := choice_of_dashed (a := a) (by simp [ha])
    simp only [options, ha, hc] at h
    split at h
    · obtain ⟨d', -, hd⟩ := Reader.bind_eq_ok_iff.1 h
      cases hd
    · cases h
  | long name value =>
    have hc := choice_of_dashed (a := a) (by simp [ha])
    right
    cases ho : LongOption.ofName? name with
    | none => simp only [options, ha, hc, ho] at h; cases h
    | some o =>
      have hargument := eq_argument_of_long ha ho
      cases value with
      | none =>
        by_cases hhelp : o = .help
        · subst hhelp
          simp only [options, ha, hc, ho] at h
          obtain ⟨d', -, hd⟩ := Reader.bind_eq_ok_iff.1 h
          cases hd
        · simp only [options, ha, hc, ho] at h
          obtain ⟨d', hd, h⟩ := Reader.bind_eq_ok_iff.1 h
          refine ⟨d', hd, ?_⟩
          split at h
          · next hv => exact .name o hv hargument h
          · next hv =>
            obtain ⟨e, he, h⟩ := Reader.bind_eq_ok_iff.1 h
            exact .flag o e (by simpa using hv) hargument he h
      | some v =>
        simp only [options, ha, hc, ho] at h
        split at h
        · next hv =>
          obtain ⟨d', hd, h⟩ := Reader.bind_eq_ok_iff.1 h
          obtain ⟨e, he, h⟩ := Reader.bind_eq_ok_iff.1 h
          exact ⟨d', hd, .joined o v e hv hargument he h⟩
        · cases h

/-! ## Whole lines -/

/-- The options of a line, taken one after the other. -/
def Draft.giveAll (d : Draft) (gs : List Given) : Except Stop Draft :=
  gs.foldlM (fun d g => d.give g.option g.value) d

/-- What the settings of a line come from. -/
def Line.Makes (s : Start) (d : Draft) (t : Settings) (l : Line) : Prop :=
  ∃ d' op, d.giveAll l.given = .ok d' ∧ operation s l.subcommand l.operands = .ok op ∧
    finish s d' (some op) = .ok t

/-- The line with one option more in front. -/
def Line.cons (g : Given) (l : Line) : Line := { l with given := g :: l.given }

theorem Line.arguments_cons (g : Given) (l : Line) :
    (l.cons g).arguments = g.arguments ++ l.arguments := by
  simp [cons, arguments]

theorem Line.Makes.cons {l : Line} {g : Given} {d' : Draft} (hg : d.give g.option g.value = .ok d')
    (h : l.Makes s d' t) : (l.cons g).Makes s d t := by
  obtain ⟨e, op, he, hop, hf⟩ := h
  refine ⟨e, op, ?_, hop, hf⟩
  rw [Draft.giveAll, Line.cons, List.foldlM_cons, hg]
  exact he

/-- Where a value is awaited, the next argument is it. -/
theorem options_awaiting {o : LongOption} (h : options s d (.awaiting o) args = .ok t) :
    ∃ v r, args = v :: r ∧ options s d (.holding o v) r = .ok t := by
  cases args with
  | nil =>
    obtain ⟨d', -, hd⟩ := Reader.bind_eq_ok_iff.1 h
    exact absurd hd finish_none_ne_ok
  | cons v r =>
    rcases options_cons h with ⟨o', ho, hr⟩ | ⟨d', hd, -⟩
    · cases ho
      exact ⟨v, r, rfl, hr⟩
    · cases hd

/-- **Accepted arguments are a line**, from whose options the settings are made. -/
theorem exists_line {s : Start} {d : Draft} {p : Pending} {args : List (List UInt8)}
    {t : Settings} (hp : ∀ o, p ≠ .awaiting o) (h : options s d p args = .ok t) :
    ∃ d' l, d.settle p = .ok d' ∧ args = Line.arguments l ∧ l.Makes s d' t := by
  match args with
  | [] =>
    obtain ⟨d', -, hd⟩ := Reader.bind_eq_ok_iff.1 h
    exact absurd hd finish_none_ne_ok
  | a :: r =>
    rcases options_cons h with ⟨o, ho, -⟩ | ⟨d', hd, hf⟩
    · exact absurd ho (hp o)
    · -- What comes behind an option is a line again; behind a bare name it begins with the value.
      obtain ⟨l, hl, hm⟩ : ∃ l : Line, a :: r = l.arguments ∧ l.Makes s d' t := by
        cases hf with
        | subcommand c op ha hop hf =>
          exact ⟨⟨[], c, r⟩, by simp [Line.arguments, ha], d', op, rfl, hop, hf⟩
        | flag o e ho ha he hr =>
          obtain ⟨e', l, hs, hl, hm⟩ := exists_line (by simp) hr
          cases hs
          exact ⟨l.cons (.flag o ho), by rw [Line.arguments_cons, ha, hl]; rfl, hm.cons he⟩
        | name o ho ha hr =>
          obtain ⟨v, r', rfl, hv⟩ := options_awaiting hr
          obtain ⟨e, l, hs, hl, hm⟩ := exists_line (by simp) hv
          exact ⟨l.cons (.apart o v ho), by rw [Line.arguments_cons, ha, hl]; rfl, hm.cons hs⟩
        | joined o v e ho ha he hr =>
          obtain ⟨e', l, hs, hl, hm⟩ := exists_line (by simp) hr
          cases hs
          exact ⟨l.cons (.joined o v ho), by rw [Line.arguments_cons, ha, hl]; rfl, hm.cons he⟩
      exact ⟨d', l, hd, hl, hm⟩
  termination_by args.length
  decreasing_by all_goals simp +arith [*]

/-! ## One way to read a line -/

theorem argument_inj {o o' : LongOption} {v v' : Option (List UInt8)}
    (h : o.argument v = o'.argument v') : o = o' ∧ v = v' := by
  have hlong := congrArg Argument.ofBytes h
  rw [ofBytes_argument, ofBytes_argument, Argument.long.injEq] at hlong
  have ho := congrArg LongOption.ofName? hlong.1
  rw [ofName?_name, ofName?_name] at ho
  exact ⟨Option.some.inj ho, hlong.2⟩

theorem argument_ne_name (o : LongOption) (v : Option (List UInt8)) (c : Subcommand) :
    o.argument v ≠ Utf8.ofString c.name := by
  intro h
  have hc := choice_of_name c
  rw [← h, argument_eq, choice_of_dash] at hc
  cases hc

/-- The first argument tells how an option is given. -/
theorem Given.arguments_inj {g g' : Given} {r r' : List (List UInt8)}
    (h : g.arguments ++ r = g'.arguments ++ r') : g = g' ∧ r = r' := by
  cases g <;> cases g'
  all_goals
    simp only [arguments, List.cons_append, List.nil_append, List.cons.injEq] at h
    obtain ⟨ha, hr⟩ := h
    obtain ⟨rfl, hv⟩ := argument_inj ha
    grind

theorem Given.arguments_append_ne (g : Given) (r : List (List UInt8)) (c : Subcommand)
    (r' : List (List UInt8)) : g.arguments ++ r ≠ Utf8.ofString c.name :: r' := by
  intro h
  cases g <;> exact argument_ne_name _ _ c (List.cons.inj h).1

/-- **There is one way to read a line.** -/
theorem Line.arguments_inj {l l' : Line} (h : l.arguments = l'.arguments) : l = l' := by
  obtain ⟨gs, c, ops⟩ := l
  obtain ⟨gs', c', ops'⟩ := l'
  simp only [arguments] at h
  induction gs generalizing gs' with
  | nil =>
    cases gs' with
    | nil =>
      obtain ⟨hc, rfl⟩ := List.cons.inj h
      have hname := congrArg Choice.ofName? hc
      rw [choice_of_name, choice_of_name] at hname
      cases hname
      rfl
    | cons g gs' =>
      rw [List.flatMap_cons, List.append_assoc] at h
      exact absurd h.symm (g.arguments_append_ne _ c ops)
  | cons g gs ih =>
    cases gs' with
    | nil =>
      rw [List.flatMap_cons, List.append_assoc] at h
      exact absurd h (g.arguments_append_ne _ c' ops')
    | cons g' gs' =>
      rw [List.flatMap_cons, List.flatMap_cons, List.append_assoc, List.append_assoc] at h
      obtain ⟨rfl, hr⟩ := Given.arguments_inj h
      cases ih gs' hr
      rfl

/-! ## What the settings of a line are -/

/-- A field that an option sets, and sets once, holds in the end what was read of its value. -/
theorem giveAll_field {β : Type} (field : Draft → Option β) (read : List UInt8 → β)
    (o : LongOption) (hfield : ∀ d d' p v, Draft.give d p v = .ok d' →
      if p = o then field d = none ∧ field d' = some (read v) else field d' = field d)
    {d d' : Draft} {gs : List Given} (h : d.giveAll gs = .ok d') :
    field d' = (field d).or (((gs.find? (·.option = o)).map (·.value)).map read) := by
  induction gs generalizing d with
  | nil =>
    cases h
    simp
  | cons g gs ih =>
    rw [Draft.giveAll, List.foldlM_cons] at h
    obtain ⟨e, he, h⟩ := Reader.bind_eq_ok_iff.1 h
    have hg := hfield d e g.option g.value he
    rw [ih h]
    by_cases ho : g.option = o
    · rw [if_pos ho] at hg
      simp [hg.1, hg.2, ho]
    · rw [if_neg ho] at hg
      simp [hg, ho]

theorem give_endpoint {d d' : Draft} {p : LongOption} {v : List UInt8}
    (h : d.give p v = .ok d') :
    if p = .endpoint then
      d.endpoint.map some = none ∧ d'.endpoint.map some = some (Utf8.toString? v)
    else d'.endpoint.map some = d.endpoint.map some := by
  unfold Draft.give at h
  split at h
  · cases h
  · next hhas =>
    cases p with
    | endpoint =>
      obtain ⟨e, he, rfl⟩ := Reader.map_eq_ok h
      simpa [Draft.has, text_eq_ok_iff.1 he] using hhas
    | config =>
      simp only at h
      split at h <;> cases h
      rfl
    | _ =>
      cases h
      rfl

theorem give_config {d d' : Draft} {p : LongOption} {v : List UInt8}
    (h : d.give p v = .ok d') :
    if p = .config then d.config = none ∧ d'.config = some v else d'.config = d.config := by
  unfold Draft.give at h
  split at h
  · cases h
  · next hhas =>
    cases p with
    | endpoint =>
      obtain ⟨e, -, rfl⟩ := Reader.map_eq_ok h
      rfl
    | config =>
      simp only at h
      split at h <;> cases h
      simpa [Draft.has] using hhas
    | _ =>
      cases h
      rfl

/-- **All that a line gives is in its options**: the arguments that are accepted are those of one
line, the file is the value of its option, and the endpoint is the value of its option or else of
the variable. -/
theorem parse_line {env : Environment} {args : List (List UInt8)} {t : Settings}
    (h : parse env args = .ok t) :
    ∃ l : Line, args.tail = l.arguments ∧ t.config = l.value? .config ∧
      t.endpoint.map some = ((l.value? .endpoint).or
        (env.find? (Utf8.ofString "PUMPHOUSE_ENDPOINT"))).map Utf8.toString? := by
  obtain ⟨d, l, hd, hl, d', op, hall, hop, hf⟩ := exists_line (by simp) h
  cases hd
  have hconfig := giveAll_field Draft.config id .config (fun _ _ _ _ => give_config) hall
  have hendpoint := giveAll_field (fun d => d.endpoint.map some) Utf8.toString? .endpoint
    (fun _ _ _ _ => give_endpoint) hall
  obtain ⟨he, hc, -⟩ := finish_some hf
  refine ⟨l, hl, ?_, ?_⟩
  · rw [hc, hconfig]
    simp [Line.value?, Draft.empty]
  · rw [he, hendpoint]
    simp [Line.value?, Draft.empty, Start.endpoint?, Option.map_or]

end MigrationClient.CommandLine
