import Mathlib.Data.List.Perm.Basic
import MigrationClient.Proofs.CommandLine.Operands

/-!
# Command lines that are written are read back

Settings are written as one argument for each option that is present, in any order, and the
subcommand with its identifier behind an escape. Read from left to right, such a line gives at
every moment the part of the settings whose options have been read (`Draft.part`): each option
adds its own field and no other (`options_part`). So **any settings are read back from the
arguments that ask for them, whatever the order of the options** (`parse_written`).
-/

namespace MigrationClient.CommandLine

open Text

theorem takesValue_endpoint : LongOption.endpoint.takesValue = true := rfl

theorem takesValue_config : LongOption.config.takesValue = true := rfl

/-- The options that are present in some settings, as they are given. -/
def givenBy (t : Settings) : List Given :=
  (t.endpoint.map fun e => Given.joined .endpoint (Utf8.ofString e) takesValue_endpoint).toList ++
    (t.config.map fun p => Given.joined .config p takesValue_config).toList ++
    (if t.verbose then [Given.flag .verbose rfl] else []) ++
    (if t.jsonLogs then [Given.flag .jsonLogs rfl] else [])

/-- An option as one argument. -/
def Given.argument : Given → List UInt8
  | flag o _ => o.argument none
  | joined o v _ | apart o v _ => o.argument (some v)

/-- The part of some settings that some of their options give. -/
def Draft.part (t : Settings) (os : List LongOption) : Draft where
  endpoint := if .endpoint ∈ os then t.endpoint else none
  config := if .config ∈ os then t.config else none
  verbose := .verbose ∈ os && t.verbose
  jsonLogs := .jsonLogs ∈ os && t.jsonLogs

variable {s : Start} {d : Draft} {t : Settings} {o : LongOption} {g : Given} {gs : List Given}
  {os : List LongOption} {v : List UInt8} {args rest : List (List UInt8)}

theorem mem_givenBy : g ∈ givenBy t ↔
    (∃ e, t.endpoint = some e ∧ g = .joined .endpoint (Utf8.ofString e) rfl) ∨
      (∃ p, t.config = some p ∧ g = .joined .config p rfl) ∨
      (t.verbose = true ∧ g = .flag .verbose rfl) ∨ (t.jsonLogs = true ∧ g = .flag .jsonLogs rfl) := by
  simp only [givenBy, List.mem_append, Option.mem_toList, Option.map_eq_some_iff, or_assoc]
  cases t.verbose <;> cases t.jsonLogs <;> simp [eq_comm]

theorem nodup_options_givenBy (t : Settings) : ((givenBy t).map (·.option)).Nodup := by
  obtain ⟨e, p, v, j, op⟩ := t
  cases e <;> cases p <;> cases v <;> cases j <;> simp [givenBy, Given.option]

theorem optionArguments_eq (t : Settings) : optionArguments t = (givenBy t).map Given.argument := by
  obtain ⟨e, p, v, j, op⟩ := t
  cases e <;> cases p <;> cases v <;> cases j <;> rfl

/-! ## Reading what is written -/

theorem options_flag (ho : o.takesValue = false) (hh : o ≠ .help) :
    options s d .nothing (o.argument none :: rest) =
      d.give o [] >>= fun d => options s d .nothing rest := by
  have hc : Choice.ofName? (o.argument none) = none := by rw [argument_eq, choice_of_dash]
  simp only [options, hc, ofBytes_argument, ofName?_name, ho, Draft.settle]
  rfl

theorem options_joined (ho : o.takesValue = true) :
    options s d .nothing (o.argument (some v) :: rest) =
      d.give o v >>= fun d => options s d .nothing rest := by
  have hc : Choice.ofName? (o.argument (some v)) = none := by rw [argument_eq, choice_of_dash]
  simp only [options, hc, ofBytes_argument, ofName?_name, ho, Draft.settle]
  rfl

theorem options_subcommand (c : Subcommand) :
    options s d .nothing (Utf8.ofString c.name :: args) =
      operation s c args >>= fun op => finish s d (some op) := by
  simp only [options, choice_of_name, Draft.settle]
  rfl

/-- An option adds its own field to what has been given, and no other. -/
theorem give_part (hg : g ∈ givenBy t) (hn : g.option ∉ os) (hc : t.config ≠ some []) :
    (Draft.part t os).give g.option g.value = .ok (.part t (g.option :: os)) := by
  rcases mem_givenBy.1 hg with ⟨e, he, rfl⟩ | ⟨p, hp, rfl⟩ | ⟨hv, rfl⟩ | ⟨hj, rfl⟩
  · have hn : LongOption.endpoint ∉ os := hn
    simp [Given.option, Given.value, Draft.give, Draft.has, Draft.part, hn, he,
      text_eq_ok_iff.2 (Utf8.toString?_ofString e), Except.map]
  · have hn : LongOption.config ∉ os := hn
    have hne : p ≠ [] := by
      rintro rfl
      exact hc hp
    simp [Given.option, Given.value, Draft.give, Draft.has, Draft.part, hn, hp, hne]
  · have hn : LongOption.verbose ∉ os := hn
    simp [Given.option, Draft.give, Draft.has, Draft.part, hn, hv]
  · have hn : LongOption.jsonLogs ∉ os := hn
    simp [Given.option, Draft.give, Draft.has, Draft.part, hn, hj]

/-- **One option is read**: what has been given grows by its field. -/
theorem options_part (hg : g ∈ givenBy t) (hn : g.option ∉ os) (hc : t.config ≠ some []) :
    options s (.part t os) .nothing (g.argument :: rest) =
      options s (.part t (g.option :: os)) .nothing rest := by
  have hgive := give_part hg hn hc
  have hstep : options s (.part t os) .nothing (g.argument :: rest) =
      (Draft.part t os).give g.option g.value >>= fun d => options s d .nothing rest := by
    rcases mem_givenBy.1 hg with ⟨e, -, rfl⟩ | ⟨p, -, rfl⟩ | ⟨-, rfl⟩ | ⟨-, rfl⟩
    · exact options_joined rfl
    · exact options_joined rfl
    · exact options_flag rfl (by decide)
    · exact options_flag rfl (by decide)
  rw [hstep, hgive]
  rfl

/-- **Any options are read**, each once, in the order in which they come. -/
theorem options_parts (hg : ∀ g ∈ gs, g ∈ givenBy t) (hn : (gs.map (·.option)).Nodup)
    (hos : ∀ g ∈ gs, g.option ∉ os) (hc : t.config ≠ some []) :
    options s (.part t os) .nothing (gs.map Given.argument ++ rest) =
      options s (.part t ((gs.map (·.option)).reverse ++ os)) .nothing rest := by
  induction gs generalizing os with
  | nil => rfl
  | cons g gs ih =>
    rw [List.map_cons, List.nodup_cons] at hn
    have hfresh : ∀ h ∈ gs, h.option ∉ g.option :: os := by
      intro h hh hmem
      rcases List.mem_cons.1 hmem with heq | hmem
      · exact hn.1 (heq ▸ List.mem_map_of_mem hh)
      · exact hos h (List.mem_cons_of_mem g hh) hmem
    rw [List.map_cons, List.cons_append,
      options_part (hg g List.mem_cons_self) (hos g List.mem_cons_self) hc,
      ih (fun h hh => hg h (List.mem_cons_of_mem g hh)) hn.2 hfresh]
    simp

/-! ## The whole -/

/-- The part that all options give is everything but the operation. -/
theorem part_of_all (h : ∀ g ∈ givenBy t, g.option ∈ os) :
    Draft.part t os = ⟨t.endpoint, t.config, t.verbose, t.jsonLogs⟩ := by
  have he : ∀ e, t.endpoint = some e → LongOption.endpoint ∈ os := fun e he =>
    h _ (mem_givenBy.2 (.inl ⟨e, he, rfl⟩))
  have hp : ∀ p, t.config = some p → LongOption.config ∈ os := fun p hp =>
    h _ (mem_givenBy.2 (.inr (.inl ⟨p, hp, rfl⟩)))
  have hv : t.verbose = true → LongOption.verbose ∈ os := fun hv =>
    h _ (mem_givenBy.2 (.inr (.inr (.inl ⟨hv, rfl⟩))))
  have hj : t.jsonLogs = true → LongOption.jsonLogs ∈ os := fun hj =>
    h _ (mem_givenBy.2 (.inr (.inr (.inr ⟨hj, rfl⟩))))
  cases het : t.endpoint <;> cases hpt : t.config <;> cases hvt : t.verbose <;>
    cases hjt : t.jsonLogs <;> simp_all [Draft.part]

/-- The arguments behind the subcommand of an operation. -/
def operandsOf (op : Operation) : List (List UInt8) :=
  op.identifier?.elim [] fun id => [escapeArgument, Utf8.ofString id]

theorem operationArguments_eq (op : Operation) :
    operationArguments op = Utf8.ofString op.subcommand.name :: operandsOf op := by
  cases op <;> rfl

theorem operation_operandsOf (op : Operation) :
    operation s op.subcommand (operandsOf op) = .ok op := by
  refine operation_eq_ok_iff.2 ⟨rfl, ?_⟩
  cases op with
  | resources | reset => exact .nothing
  | migrateTenant id | evacuateHost id => exact .behind

/-- Nothing is asked of the variable where the endpoint is given. -/
theorem finish_all (he : s.endpoint? = none ∨ t.endpoint.isSome) :
    finish s ⟨t.endpoint, t.config, t.verbose, t.jsonLogs⟩ (some t.operation) = .ok t := by
  obtain ⟨e, p, v, j, op⟩ := t
  cases e with
  | none =>
    have hs : s.endpoint? = none := by simpa using he
    simp only [finish, hs]
    rfl
  | some e => rfl

theorem exists_perm_of_perm_map {α β : Type} {f : α → β} {as : List β} {l : List α}
    (h : as.Perm (l.map f)) : ∃ l' : List α, as = l'.map f ∧ l'.Perm l := by
  have hcomp : Relation.Comp (· = List.map f ·) List.Perm as l := by
    rw [List.eq_map_comp_perm]
    exact h
  exact hcomp

/-- **What is written is read back**: the arguments that ask for some settings, with the options in
any order, are accepted and give these settings and no others. The variable for the endpoint must
not be set where the settings leave the endpoint open. -/
theorem parse_written (env : Environment) (program : List UInt8) (t : Settings)
    (opts : List (List UInt8)) (hc : t.config ≠ some [])
    (he : env.find? (Utf8.ofString "PUMPHOUSE_ENDPOINT") = none ∨ t.endpoint.isSome)
    (ho : opts.Perm (optionArguments t)) :
    parse env (program :: (opts ++ operationArguments t.operation)) = .ok t := by
  rw [optionArguments_eq] at ho
  obtain ⟨gs, rfl, hgs⟩ := exists_perm_of_perm_map ho
  have hall : ∀ g ∈ givenBy t, g.option ∈ (gs.map (·.option)).reverse ++ [] := by
    intro g hg
    simpa using ⟨g, hgs.mem_iff.2 hg, rfl⟩
  have hempty : Draft.empty = Draft.part t [] := by simp [Draft.part, Draft.empty]
  have hnodup : (gs.map (·.option)).Nodup :=
    (hgs.map _).nodup_iff.2 (nodup_options_givenBy t)
  calc parse env (program :: (gs.map Given.argument ++ operationArguments t.operation))
      = options ⟨program, env⟩ (.part t []) .nothing
          (gs.map Given.argument ++ operationArguments t.operation) := by rw [← hempty]; rfl
    _ = options ⟨program, env⟩ ⟨t.endpoint, t.config, t.verbose, t.jsonLogs⟩ .nothing
          (operationArguments t.operation) := by
        rw [options_parts (fun g hg => hgs.subset hg) hnodup (by simp) hc, part_of_all hall]
    _ = finish ⟨program, env⟩ ⟨t.endpoint, t.config, t.verbose, t.jsonLogs⟩ (some t.operation) := by
        rw [operationArguments_eq, options_subcommand, operation_operandsOf]
        rfl
    _ = .ok t := finish_all he

/-- An empty endpoint, a file whose name holds an equals sign, and an identifier that is spelled
like an option. -/
def unlikely : Settings :=
  ⟨some "", some (Utf8.ofString "a=b"), false, true, .migrateTenant "--help"⟩

/-- The options of these settings, from last to first. -/
theorem parse_unlikely :
    unlikely.config ≠ some [] ∧ unlikely.endpoint.isSome ∧
      (optionArguments unlikely).reverse.Perm (optionArguments unlikely) ∧
      parse ⟨[Utf8.ofString "PUMPHOUSE_ENDPOINT=x"]⟩ (Utf8.ofString "pumphouse-api" ::
        ((optionArguments unlikely).reverse ++ operationArguments unlikely.operation)) =
          .ok unlikely := by
  have hc : unlikely.config ≠ some [] := by decide
  have ho : (optionArguments unlikely).reverse.Perm (optionArguments unlikely) :=
    List.reverse_perm _
  exact ⟨hc, rfl, ho, parse_written _ _ unlikely _ hc (.inr rfl) ho⟩

end MigrationClient.CommandLine
