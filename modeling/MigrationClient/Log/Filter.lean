import MigrationClient.Log.Event
import MigrationClient.Text.Blank
import MigrationClient.Text.Numeral
import MigrationClient.Text.Split

/-!
# Log filters

Which events are logged. A filter is a list of directives with commas between them. A directive
gives a level for the events of a target, that is of every part of the program whose name begins
so; it may also ask for fields. Of the directives that fit an event, the one with the longest
target counts.
-/

namespace MigrationClient.Log

open Text

/-- How far into detail events are logged; zero is not at all. -/
abbrev Limit := Nat

/-- A directive. Without a target it fits every event; in a span it fits no event at all, as
there are none in spans. -/
structure Directive where
  target : Option String
  inSpan : Bool
  fields : List String
  limit : Limit
  deriving DecidableEq, Repr

abbrev Filter := List Directive

/-! ## Reading -/

/-- The limits by their names. -/
def limitNames : List (String × Limit) :=
  [("off", 0), ("error", 1), ("warn", 2), ("info", 3), ("debug", 4), ("trace", 5)]

/-- A limit by its number. -/
def limitNumber? (s : List Char) : Option Limit :=
  let digits :=
    match s with
    | '+' :: r => r
    | s => s
  if digits.all isDecimal then (value? 10 digits).filter (· ≤ 5) else none

/-- A limit by its number or its name, in either case. -/
def limit? (s : List Char) : Option Limit :=
  (limitNumber? s).or (limitNames.lookup (String.ofList (s.map Char.toLower)))

/-- The most detailed limit. -/
def fullLimit : Limit := 5

/-- A directive without an equals sign or brackets: a limit or a target. -/
def Directive.ofWord (s : List Char) : Directive :=
  match limit? s with
  | some l => ⟨none, false, [], l⟩
  | none => ⟨some (String.ofList s), false, [], fullLimit⟩

/-- The limit after an equals sign. -/
def limitAfter? (s : List Char) : Option Limit := if s.isEmpty then some fullLimit else limit? s

/-- The limit after the brackets of a directive, where blanks may follow. -/
def limitAfterSpan? (s : List Char) : Option Limit :=
  match s with
  | '=' :: r => limitAfter? r
  | s => if s.all isBlank then some fullLimit else none

/-- A directive with brackets, after the opening one. A field that is asked for by its value
counts as a span. -/
def Directive.ofSpan? (target : Option String) (s : List Char) : Option Directive :=
  let name := s.takeWhile fun c => c ≠ ']' && c ≠ '\x7b'
  match s.drop name.length with
  | ']' :: r => (limitAfterSpan? r).map fun l => ⟨target, true, [], l⟩
  | _ :: r =>
    match cut? (· == '\x7d') r with
    | some (inner, ']' :: rest) =>
      let fields := splitOn ',' inner
      if fields.any List.isEmpty then none
      else
        (limitAfterSpan? rest).map fun l =>
          ⟨target, !name.isEmpty || inner.contains '=', fields.map String.ofList, l⟩
    | _ => none
  | [] => none

/-- A character that a directive may begin with. -/
def isStart (c : Char) : Bool := c.isAlphanum || c.toNat ≥ 0x80 || c = '-' || c = ':' || c = '_'

/-- A directive without blanks in front. -/
def Directive.ofTrimmed? (s : List Char) : Option Directive :=
  match s with
  | [] => none
  | '[' :: r => Directive.ofSpan? none r
  | c :: _ =>
    if isStart c then
      match cut? (fun c => c == '=' || c == '[') s with
      | none => some (Directive.ofWord s)
      | some (target, rest) =>
        if (s.drop target.length).head? = some '=' then
          (limitAfter? rest).map fun l => ⟨some (String.ofList target), false, [], l⟩
        else Directive.ofSpan? (some (String.ofList target)) rest
    else none

/-- A directive. With blanks in front a word is a target that has them too, and no limit can be
given. -/
def Directive.ofText? (s : List Char) : Option Directive :=
  if s.head?.any isBlank then
    if s.contains '=' then none
    else
      (Directive.ofTrimmed? (trim s)).map fun d =>
        { d with target := some (String.ofList s), limit := fullLimit }
  else Directive.ofTrimmed? s

/-- The filter that a text spells; every directive has to be one. -/
def Filter.ofText? (s : String) : Option Filter :=
  ((splitOn ',' s.toList).filter (!·.isEmpty)).mapM Directive.ofText?

/-! ## Filtering -/

/-- Whether a directive is about an event. Events have one field, the message. -/
def Directive.fits (d : Directive) (e : Event) : Bool :=
  !d.inSpan && d.fields.all (· = "message") &&
    (d.target.getD "").toList.isPrefixOf e.target.toList

/-- How specific a directive is. -/
def Directive.rank (d : Directive) : Nat × Nat :=
  ((d.target.map (·.length + 1)).getD 0, d.fields.length)

/-- Whether a directive yields to another that is as specific or more so. -/
def Directive.yields (d e : Directive) : Bool :=
  d.rank.1 < e.rank.1 || (d.rank.1 = e.rank.1 && d.rank.2 ≤ e.rank.2)

/-- The directive of a filter that counts for an event. -/
def Filter.for? (f : Filter) (e : Event) : Option Directive :=
  (f.filter (·.fits e)).foldl
    (fun best d =>
      match best with
      | none => some d
      | some b => if b.yields d then some d else some b) none

/-- Whether an event is logged. -/
def Filter.admits (f : Filter) (e : Event) : Bool :=
  (f.for? e).any fun d => e.level.detail ≤ d.limit

/-! ## The filters of this program -/

/-- The filter that counts when the environment gives none, as a text. -/
def defaultText (verbose : Bool) : String :=
  if verbose then "pumphouse_api=debug,info" else "pumphouse_api=info"

/-- The filter of a run. A text that spells no filter counts for nothing. -/
def Filter.choose (given : Option String) (verbose : Bool) : Filter :=
  ((given.bind Filter.ofText?).or (Filter.ofText? (defaultText verbose))).getD []

end MigrationClient.Log
