import MigrationClient.Error
import MigrationClient.Text.Blank
import MigrationClient.Url.Parse

/-!
# Validation

What a configured value has to be: an endpoint is a URL of the scheme `http` or `https`, and an
identifier is not blank.
-/

namespace MigrationClient.Validation

/-- Accepts the URLs of the schemes `http` and `https`. -/
def url (field value : String) : Except Error Unit :=
  if value.isEmpty then .error (.invalidValue field value .emptyUrl)
  else
    match Url.parse value with
    | .error cause => .error (.invalidValue field value (.malformedUrl cause))
    | .ok u =>
      if u.scheme = "http" ∨ u.scheme = "https" then .ok ()
      else .error (.invalidValue field value (.unsupportedScheme u.scheme))

theorem url_eq_ok_iff {field value : String} :
    url field value = .ok () ↔
      value ≠ "" ∧ ∃ u, Url.parse value = .ok u ∧ (u.scheme = "http" ∨ u.scheme = "https") := by
  unfold url
  split
  · next h => simp [String.isEmpty_iff.1 h]
  · next h =>
    have hne : value ≠ "" := by simpa [String.isEmpty_iff] using h
    cases Url.parse value with
    | error cause => simp
    | ok u =>
      by_cases hs : u.scheme = "http" ∨ u.scheme = "https" <;> simp [hne, hs]

/-- Accepts what holds a character that is not blank. -/
def notBlank (field value : String) : Except Error Unit :=
  if Text.trim value.toList = [] then .error (.invalidValue field value .blank) else .ok ()

theorem notBlank_eq_ok_iff {field value : String} :
    notBlank field value = .ok () ↔ ∃ c ∈ value.toList, Text.isBlank c = false := by
  unfold notBlank
  split
  · rename_i h
    rw [Text.trim_eq_nil_iff] at h
    simp only [reduceCtorEq, false_iff, not_exists, not_and]
    intro c hc
    simp [h c hc]
  · rename_i h
    rw [Text.trim_eq_nil_iff] at h
    simp only [true_iff]
    simpa using h

end MigrationClient.Validation
