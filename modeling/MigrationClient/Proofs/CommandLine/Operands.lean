import MigrationClient.Proofs.CommandLine.Given
import MigrationClient.Proofs.Text.Utf8

/-!
# The arguments of a subcommand

Behind the name of a subcommand stands its identifier, if it takes one, and at most one escape,
before or behind it. An identifier that looks like an option needs the escape before it. These are
the only arguments that are accepted: **they give an operation exactly when they spell its
identifier** (`operation_eq_ok_iff`).
-/

namespace MigrationClient

open Text

/-- The subcommand that asks for an operation. -/
def Operation.subcommand : Operation → CommandLine.Subcommand
  | resources => .resources
  | reset => .reset
  | migrateTenant _ => .migrateTenant
  | evacuateHost _ => .evacuateHost

/-- The identifier of what an operation acts on. -/
def Operation.identifier? : Operation → Option String
  | migrateTenant id | evacuateHost id => some id
  | _ => none

namespace CommandLine

/-- The argument behind which dashes mean nothing. -/
def escapeArgument : List UInt8 := Utf8.ofString "--"

/-- How an identifier may be spelled by the arguments of a subcommand. -/
inductive Spells : Option (List UInt8) → List (List UInt8) → Prop
  | nothing : Spells none []
  | escape : Spells none [escapeArgument]
  | plain {v : List UInt8} : Argument.ofBytes v = .plain → Spells (some v) [v]
  | behind {v : List UInt8} : Spells (some v) [escapeArgument, v]
  | before {v : List UInt8} : Argument.ofBytes v = .plain → Spells (some v) [v, escapeArgument]

variable {s : Start} {c : Subcommand} {v : List UInt8} {id : Option String}
  {args : List (List UInt8)}

theorem eq_escapeArgument {a : List UInt8} (h : Argument.ofBytes a = .escape) :
    a = escapeArgument := by
  unfold Argument.ofBytes at h
  split at h
  · decide
  all_goals cases h

/-! ## Reading them -/

/-- An identifier that is found has to be text. -/
theorem operand_nil_eq_ok_iff {escaped : Bool} {held : Option (List UInt8)} :
    operand s c escaped held [] = .ok id ↔ held = id.map Utf8.ofString := by
  cases held with
  | none => cases id <;> simp [operand]
  | some v =>
    simp only [operand, Option.elim_some]
    constructor
    · intro h
      obtain ⟨e, he, rfl⟩ := Reader.map_eq_ok h
      simp [Utf8.toString?_eq_some_iff.1 (text_eq_ok_iff.1 he)]
    · intro h
      obtain ⟨e, rfl, rfl⟩ := Option.map_eq_some_iff.1 h.symm
      rw [text_eq_ok_iff.2 (Utf8.toString?_ofString e)]
      rfl

/-- Behind an escape and an identifier nothing may follow. -/
theorem operand_full_eq_ok_iff : operand s c true (some v) args = .ok id ↔
    args = [] ∧ some v = id.map Utf8.ofString := by
  cases args with
  | nil => simp [operand_nil_eq_ok_iff]
  | cons a r => simp [operand]

/-- Behind an escape anything is the identifier. -/
theorem operand_escaped_eq_ok_iff : operand s c true none args = .ok id ↔
    args = (id.map Utf8.ofString).toList ∧ (id.isSome → c.operandName?.isSome) := by
  cases args with
  | nil =>
    rw [operand_nil_eq_ok_iff]
    cases id <;> simp
  | cons a r =>
    by_cases hc : c.operandName?.isSome = true
    · simp only [operand, hc, Option.isNone_none, and_self, if_true, operand_full_eq_ok_iff]
      cases id <;> simp [and_comm, eq_comm]
    · cases id <;> simp [operand, hc]

/-- No option but an escape may stand among the arguments. -/
theorem operand_option_ne_ok {held : Option (List UInt8)} {a : List UInt8}
    (hp : Argument.ofBytes a ≠ .plain) (he : Argument.ofBytes a ≠ .escape) :
    operand s c false held (a :: args) ≠ .ok id := by
  intro h
  cases ha : Argument.ofBytes a with
  | plain => exact hp ha
  | escape => exact he ha
  | long name value =>
    simp only [operand, ha] at h
    split at h
    · obtain ⟨_, -, h⟩ := Reader.bind_eq_ok_iff.1 h
      cases h
    · cases h
    · cases h
  | short letter =>
    simp only [operand, ha] at h
    split at h
    · obtain ⟨_, -, h⟩ := Reader.bind_eq_ok_iff.1 h
      cases h
    · cases h

/-- What is no option is the identifier, if one is taken. -/
theorem operand_plain (hp : Argument.ofBytes v = .plain) (hc : c.operandName?.isSome = true) :
    operand s c false none (v :: args) = operand s c false (some v) args := by
  simp [operand, hp, hc]

/-- Behind an identifier only an escape may follow. -/
theorem operand_held_eq_ok_iff : operand s c false (some v) args = .ok id ↔
    (args = [] ∨ args = [escapeArgument]) ∧ some v = id.map Utf8.ofString := by
  cases args with
  | nil => simp [operand_nil_eq_ok_iff]
  | cons a r =>
    by_cases he : Argument.ofBytes a = .escape
    · obtain rfl := eq_escapeArgument he
      simp only [operand, he, operand_full_eq_ok_iff]
      simp
    · have hne : a ≠ escapeArgument := by
        rintro rfl
        exact he rfl
      by_cases hp : Argument.ofBytes a = .plain
      · simp [operand, hp, hne]
      · simp [operand_option_ne_ok hp he, hne]

/-- **The arguments of a subcommand that are accepted spell its identifier.** -/
theorem operand_eq_ok_iff : operand s c false none args = .ok id ↔
    Spells (id.map Utf8.ofString) args ∧ (id.isSome → c.operandName?.isSome) := by
  constructor
  · intro h
    cases args with
    | nil =>
      obtain rfl := Option.map_eq_none_iff.1 (operand_nil_eq_ok_iff.1 h).symm
      exact ⟨.nothing, by simp⟩
    | cons a r =>
      by_cases he : Argument.ofBytes a = .escape
      · obtain rfl := eq_escapeArgument he
        simp only [operand, he, operand_escaped_eq_ok_iff] at h
        obtain ⟨rfl, hc⟩ := h
        refine ⟨?_, hc⟩
        cases id with
        | none => exact .escape
        | some i => exact .behind
      by_cases hp : Argument.ofBytes a = .plain
      · by_cases hc : c.operandName?.isSome = true
        · rw [operand_plain hp hc] at h
          obtain ⟨hr, hi⟩ := operand_held_eq_ok_iff.1 h
          rw [← hi]
          refine ⟨?_, fun _ => hc⟩
          rcases hr with rfl | rfl
          · exact .plain hp
          · exact .before hp
        · simp [operand, hp, hc] at h
      · exact absurd h (operand_option_ne_ok hp he)
  · rintro ⟨h, hc⟩
    generalize hv : id.map Utf8.ofString = v at h
    have hsome : ∀ w, v = some w → c.operandName?.isSome = true := by
      rintro w rfl
      obtain ⟨i, rfl, -⟩ := Option.map_eq_some_iff.1 hv
      exact hc rfl
    cases h with
    | nothing => exact operand_nil_eq_ok_iff.2 hv.symm
    | escape =>
      obtain rfl := Option.map_eq_none_iff.1 hv
      exact operand_escaped_eq_ok_iff.2 ⟨rfl, by simp⟩
    | plain hp =>
      rw [operand_plain hp (hsome _ rfl)]
      exact operand_held_eq_ok_iff.2 ⟨.inl rfl, hv.symm⟩
    | behind => exact operand_escaped_eq_ok_iff.2 ⟨by rw [hv]; rfl, fun _ => hsome _ rfl⟩
    | before hp =>
      rw [operand_plain hp (hsome _ rfl)]
      exact operand_held_eq_ok_iff.2 ⟨.inr rfl, hv.symm⟩

/-! ## Operations -/

theorem operation?_eq_some_iff {op : Operation} : c.operation? id = some op ∧
    (id.isSome → c.operandName?.isSome) ↔ op.subcommand = c ∧ op.identifier? = id := by
  cases c <;> cases op <;> cases id <;>
    simp [Subcommand.operation?, Subcommand.operandName?, Operation.subcommand,
      Operation.identifier?, eq_comm]

/-- **The arguments of a subcommand are accepted exactly when they spell the identifier of one of
its operations.** -/
theorem operation_eq_ok_iff {op : Operation} : operation s c args = .ok op ↔
    op.subcommand = c ∧ Spells (op.identifier?.map Utf8.ofString) args := by
  rw [operation, Reader.bind_eq_ok_iff]
  constructor
  · rintro ⟨id, hid, h⟩
    obtain ⟨hs, hc⟩ := operand_eq_ok_iff.1 hid
    split at h
    · next op' hop =>
      cases h
      obtain ⟨ho, rfl⟩ := operation?_eq_some_iff.1 ⟨hop, hc⟩
      exact ⟨ho, hs⟩
    · cases h
  · rintro ⟨hc, hs⟩
    obtain ⟨hop, hi⟩ := operation?_eq_some_iff.2 ⟨hc, rfl⟩
    exact ⟨op.identifier?, operand_eq_ok_iff.2 ⟨hs, hi⟩, by rw [hop]⟩

end CommandLine

end MigrationClient
