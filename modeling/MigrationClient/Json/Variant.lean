import MigrationClient.Json.Decoder

/-!
# Variants

A value that is one of several named variants. A variant without content is written as its name;
one with content as an object whose only member has that name.
-/

namespace MigrationClient.Json

open Text

/-- A variant that stands for a value, or one with content. -/
inductive Variant (α : Type) where
  | unit (a : α)
  | content (r : Reader α)

/-- The variants of a type by their names. -/
abbrev Variants (α : Type) := List (String × Variant α)

namespace Variants

def find? (vs : Variants α) (name : String) : Except Cause (Variant α) :=
  match vs.lookup name with
  | some v => .ok v
  | none => .error (.unknownVariant name (vs.map (·.1)))

/-- A variant that is given by its name alone. -/
def bare (vs : Variants α) (s : List UInt8) : Step α :=
  match string s with
  | .error f => .error f
  | .ok (name, r) =>
    match vs.find? name with
    | .error c => faultAt c r
    | .ok (.unit a) => .ok (a, r)
    | .ok (.content _) => faultOfShape (.invalidType .unitVariant "struct variant") r

/-- The content of a variant. Where none is needed, `null` stands. -/
def Variant.reader : Variant α → Reader α
  | .unit a => Decoder.unit.reader.map fun _ => a
  | .content r => r

/-- The name of a variant before its content. -/
def tag (vs : Variants α) : Reader (Reader α) :=
  .scalar "variant identifier" fun t =>
    match t with
    | .string name => (vs.find? name).map Variant.reader
    | t => mismatch "variant identifier" t

/-- A variant with its content, after the opening bracket. -/
def tagged (vs : Variants α) (s : List UInt8) : Step α :=
  match vs.tag.run s with
  | .error f => .error f
  | .ok (content, r) =>
    match colon r with
    | .error f => .error f
    | .ok t =>
      match content.run t with
      | .error f => .error f
      | .ok (a, u) =>
        match skipSpace u with
        | [] => faultAt .eofInObject []
        | b :: v => if b = 125 then .ok (a, v) else faultAt .expectedValue (b :: v)

theorem bare_shorter {vs : Variants α} {s : List UInt8} {a r} (h : vs.bare s = .ok (a, r)) :
    r.length < s.length := by
  unfold bare at h
  split at h
  · cases h
  · rename_i hs
    have := string_shorter hs
    split at h
    · cases h
    · cases h; exact this
    · cases h

theorem tagged_shorter {vs : Variants α} {s : List UInt8} {a r} (h : vs.tagged s = .ok (a, r)) :
    r.length < s.length := by
  unfold tagged at h
  split at h
  · cases h
  · rename_i content t ht
    have h1 := vs.tag.shorter ht
    split at h
    · cases h
    · rename_i u hu
      have h2 := colon_length_le hu
      split at h
      · cases h
      · rename_i b v hv
        have h3 := content.shorter hv
        have h4 := skipSpace_length_le v
        split at h
        · cases h
        · rename_i c w hw
          rw [hw, List.length_cons] at h4
          split at h
          · cases h; omega
          · cases h

/-- Reads one of the variants off some text. -/
def read (vs : Variants α) (s : List UInt8) : Step α :=
  match skipSpace s with
  | [] => faultNext .eofInValue []
  | b :: r =>
    if b = 34 then vs.bare r
    else if b = 123 then vs.tagged r
    else faultNext .expectedValue (b :: r)

theorem read_shorter {vs : Variants α} {s : List UInt8} {a r} (h : vs.read s = .ok (a, r)) :
    r.length < s.length := by
  have hs := skipSpace_length_le s
  unfold read at h
  split at h
  · cases h
  · rename_i b t ht
    rw [ht, List.length_cons] at hs
    split at h
    · have := bare_shorter h; omega
    · split at h
      · have := tagged_shorter h; omega
      · cases h

def reader (vs : Variants α) : Reader α := ⟨vs.read, read_shorter⟩

def decoder (vs : Variants α) : Decoder α :=
  ⟨vs.reader, .error (.invalidType .null "string or map")⟩

end Variants

end MigrationClient.Json
