import MigrationClient.Proofs.CommandLine.Given

/-!
# Asking for help

Help is shown only to those who ask for it: where parsing stops with a help page, one of the
arguments is an option or a subcommand that asks for help (`asksForHelp_of_parse`).
-/

namespace MigrationClient.CommandLine

open Text

/-- An argument that asks for help: the option, its letter, or the subcommand. -/
def AsksForHelp (a : List UInt8) : Prop :=
  a = LongOption.help.argument none ∨ Argument.ofBytes a = .short "h" ∨ a = Utf8.ofString helpName

variable {s : Start} {d : Draft} {p : Pending} {c : Subcommand} {a : List UInt8}
  {args : List (List UInt8)} {page : Page}

theorem asksForHelp_of_long {name : List UInt8} (h : Argument.ofBytes a = .long name none)
    (hn : LongOption.ofName? name = some .help) : AsksForHelp a :=
  .inl (eq_argument_of_long h hn)

theorem asksForHelp_of_short {letter : String} (h : Argument.ofBytes a = .short letter)
    (hl : letter = "h") : AsksForHelp a :=
  .inr (.inl (by rw [h, hl]))

theorem asksForHelp_of_choice (h : Choice.ofName? a = some .help) : AsksForHelp a := by
  unfold Choice.ofName? at h
  split at h
  · cases h
  · split at h
    · next hn => exact .inr (.inr hn.symm)
    · cases h

/-! ## What shows no help -/

theorem text_ne_help {v : List UInt8} : Draft.text v ≠ .error (.help page) := by
  unfold Draft.text
  cases Utf8.toString? v <;> simp

theorem give_ne_help {o : LongOption} {v : List UInt8} :
    d.give o v ≠ .error (.help page) := by
  unfold Draft.give
  split
  · simp
  · cases o with
    | endpoint => exact fun h => text_ne_help (Reader.map_eq_error_iff.1 h)
    | config =>
      simp only
      split <;> simp
    | _ => simp

theorem settle_ne_help : d.settle p ≠ .error (.help page) := by
  cases p with
  | nothing => simp [Draft.settle]
  | awaiting o => simp [Draft.settle]
  | holding o v => exact give_ne_help

theorem finish_ne_help {op : Option Operation} : finish s d op ≠ .error (.help page) := by
  intro h
  simp only [finish] at h
  split at h
  all_goals
    rcases Reader.bind_eq_error_iff.1 h with he | ⟨e, -, h⟩
    · first
        | exact text_ne_help (Reader.map_eq_error_iff.1 he)
        | cases he
    · split at h
      · cases h
      · split at h <;> cases h

/-! ## What shows help -/

theorem asksForHelp_of_operand {escaped : Bool} {held : Option (List UInt8)}
    (h : operand s c escaped held args = .error (.help page)) : ∃ a ∈ args, AsksForHelp a := by
  induction args generalizing escaped held with
  | nil =>
    cases held with
    | none => cases h
    | some v => exact absurd (Reader.map_eq_error_iff.1 h) text_ne_help
  | cons a r ih =>
    simp only [operand] at h
    split at h
    · obtain ⟨b, hb, ha⟩ := ih h
      exact ⟨b, List.mem_cons_of_mem a hb, ha⟩
    · next name value hl =>
      split at h
      · next ho => exact ⟨a, List.mem_cons_self, asksForHelp_of_long hl ho⟩
      · cases h
      · cases h
    · next letter hs =>
      split at h
      · next hh => exact ⟨a, List.mem_cons_self, asksForHelp_of_short hs hh⟩
      · cases h
    · split at h
      · obtain ⟨b, hb, ha⟩ := ih h
        exact ⟨b, List.mem_cons_of_mem a hb, ha⟩
      · cases h

theorem asksForHelp_of_operation (h : operation s c args = .error (.help page)) :
    ∃ a ∈ args, AsksForHelp a := by
  rcases Reader.bind_eq_error_iff.1 h with h | ⟨id, -, h⟩
  · exact asksForHelp_of_operand h
  · split at h <;> cases h

theorem escaped_ne_help : escaped s d p args ≠ .error (.help page) := by
  intro h
  cases args with
  | nil =>
    rcases Reader.bind_eq_error_iff.1 h with h | ⟨d', -, h⟩
    · exact settle_ne_help h
    · exact finish_ne_help h
  | cons a r =>
    simp only [escaped] at h
    split at h <;> cases h

/-- A subcommand shows help only if its arguments ask for it. -/
theorem asksForHelp_of_subcommand (h : (do
    let op ← operation s c args
    finish s (← d.settle p) (some op)) = .error (.help page)) : ∃ a ∈ args, AsksForHelp a := by
  rcases Reader.bind_eq_error_iff.1 h with h | ⟨op, -, h⟩
  · exact asksForHelp_of_operation h
  · rcases Reader.bind_eq_error_iff.1 h with h | ⟨d', -, h⟩
    · exact absurd h settle_ne_help
    · exact absurd h finish_ne_help

theorem asksForHelp_of_options (h : options s d p args = .error (.help page)) :
    ∃ a ∈ args, AsksForHelp a := by
  induction args generalizing d p with
  | nil =>
    rcases Reader.bind_eq_error_iff.1 h with h | ⟨d', -, h⟩
    · exact absurd h settle_ne_help
    · exact absurd h finish_ne_help
  | cons a r ih =>
    have here : AsksForHelp a → ∃ b ∈ a :: r, AsksForHelp b :=
      fun ha => ⟨a, List.mem_cons_self, ha⟩
    have later : (∃ b ∈ r, AsksForHelp b) → ∃ b ∈ a :: r, AsksForHelp b :=
      fun ⟨b, hb, ha⟩ => ⟨b, List.mem_cons_of_mem a hb, ha⟩
    simp only [options] at h
    -- The cases are those of the definition, in its order.
    split at h
    · exact later (ih h)
    · exact later (asksForHelp_of_subcommand h)
    · exact later (asksForHelp_of_subcommand h)
    · next hc => exact here (asksForHelp_of_choice hc)
    · next hc => exact here (asksForHelp_of_choice hc)
    · exact absurd h escaped_ne_help
    · next name value hl _ _ _ _ =>
      split at h
      · cases h
      · next ho => exact here (asksForHelp_of_long hl ho)
      · next o _ _ =>
        rcases Reader.bind_eq_error_iff.1 h with h | ⟨d', -, h⟩
        · exact absurd h settle_ne_help
        split at h
        · exact later (ih h)
        · rcases Reader.bind_eq_error_iff.1 h with h | ⟨e, -, h⟩
          · exact absurd h give_ne_help
          · exact later (ih h)
      · split at h
        · rcases Reader.bind_eq_error_iff.1 h with h | ⟨d', -, h⟩
          · exact absurd h settle_ne_help
          rcases Reader.bind_eq_error_iff.1 h with h | ⟨e, -, h⟩
          · exact absurd h give_ne_help
          · exact later (ih h)
        · cases h
    · next letter hs _ _ _ _ =>
      split at h
      · next hh => exact here (asksForHelp_of_short hs hh)
      · cases h
    · cases h

/-- **Help is shown only to those who ask for it.** -/
theorem asksForHelp_of_parse {env : Environment} (h : parse env args = .error (.help page)) :
    ∃ a ∈ args.tail, AsksForHelp a :=
  asksForHelp_of_options h

end MigrationClient.CommandLine
