/-!
# Text without terminal controls

What is left of a text when the controls are taken out that steer a terminal: single ones other
than white space, and sequences that begin with an escape. White space ends a sequence and stays,
unless it stands in a string that a sequence has opened.
-/

namespace MigrationClient.Text.Terminal

/-- Where in a sequence a text stands: outside, after the escape, in the middle of a short one,
among the parameters of a longer one, or in a string, which a bell may end. -/
inductive State where
  | outside
  | escape
  | middle
  | parameters
  | string (endsWithBell : Bool)
  deriving DecidableEq, Repr

/-- White space among the controls. -/
def isSpaceControl (c : Char) : Bool := c ∈ ['\t', '\n', '\x0c', '\r']

/-- The state after the character that follows an escape. -/
def State.opened (c : Char) : State :=
  if c = '[' then parameters
  else if c = ']' then string true
  else if c ∈ ['P', 'X', '^', '_'] then string false
  else if '0' ≤ c ∧ c ≤ '~' then outside
  else if ' ' ≤ c ∧ c ≤ '/' then middle
  else escape

/-- The state after a character, and whether the character stays. -/
def State.next (s : State) (c : Char) : State × Bool :=
  if c = '\x1b' then (escape, false)
  else if c = '\x18' ∨ c = '\x1a' then (outside, false)
  else
    match s with
    | string bell => (if bell ∧ c = '\x07' then outside else s, false)
    | s =>
      if isSpaceControl c then (outside, true)
      else if c.toNat < 0x20 ∨ c.toNat = 0x7F then (s, false)
      else
        match s with
        | escape => (State.opened c, false)
        | middle => (if '0' ≤ c ∧ c ≤ '~' then outside else s, false)
        | parameters => (if '@' ≤ c ∧ c ≤ '~' then outside else s, false)
        | s => (s, true)

/-- The text without controls, from a state on. -/
def stripFrom (s : State) : List Char → List Char
  | [] => []
  | c :: r => (if (s.next c).2 then [c] else []) ++ stripFrom (s.next c).1 r

/-- The text without controls. -/
def strip (s : List Char) : List Char := stripFrom .outside s

end MigrationClient.Text.Terminal
