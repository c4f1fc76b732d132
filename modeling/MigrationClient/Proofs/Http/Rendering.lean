import MigrationClient.Http.Response
import MigrationClient.Proofs.Text.Lossy

/-!
# What is shown of a response

A response is shown by its status and by the text of its body. **Broken bytes in a body damage
nothing but themselves**: texts on both sides of them are shown as they were sent, and the broken
bytes leave a mark (`text_between`).

A status line has no newline in it. So the status line and the text can be read off a rendering at
its first newline, also where there is none because the text is empty (`parts_render`), and
**what is shown tells the status and the text, and nothing else** (`render_eq_iff`).
-/

namespace MigrationClient.Http.Response

open Text

/-! ## The text of a body -/

theorem text_eq_empty_iff {r : Response} : r.text = "" ↔ r.body = [] := by
  rw [text, Utf8.toStringLossy, String.ofList_eq_empty_iff, Utf8.decodeLossy_eq_nil_iff]

/-- The text of a well-formed body is the one it was encoded from. -/
theorem text_of_ofString {r : Response} {u : String} (h : r.body = Utf8.ofString u) :
    r.text = u := by
  rw [text, h, Utf8.toStringLossy, Utf8.ofString, Utf8.decodeLossy_encode, String.ofList_toList]

/-- **Broken bytes damage nothing but themselves**: between two texts they are shown as they would
be alone. The text of a body is encoded as that body exactly if the body is well-formed, and there
is a mark in it otherwise. -/
theorem text_between (r : Response) (u v : String) :
    { r with body := Utf8.ofString u ++ r.body ++ Utf8.ofString v }.text = u ++ r.text ++ v ∧
      (Utf8.ofString r.text = r.body ↔ r.body.toByteArray.IsValidUTF8) ∧
      (¬ r.body.toByteArray.IsValidUTF8 → '\uFFFD' ∈ r.text.toList) := by
  rw [Utf8.isValidUTF8_iff]
  refine ⟨?_, ⟨fun h => ⟨r.text, h.symm⟩, ?_⟩, fun h => ?_⟩
  · simp only [text, Utf8.toStringLossy, Utf8.ofString, Utf8.decodeLossy_between,
      String.ofList_append, String.ofList_toList]
  · rintro ⟨s, hs⟩
    rw [text_of_ofString hs, hs]
  · have hnone : Utf8.toString? r.body = none :=
      Option.eq_none_iff_forall_ne_some.2 fun s hs => h ⟨s, Utf8.toString?_eq_some_iff.1 hs⟩
    rw [text, Utf8.toStringLossy, String.toList_ofList]
    exact Utf8.mem_decodeLossy_of_decode (Option.map_eq_none_iff.1 hnone)

/-- A sequence that breaks off before a text takes no character of it along. -/
example : Response.text ⟨⟨200, by decide, by decide⟩, [],
    Utf8.ofString "a" ++ [0xE2, 0x82] ++ Utf8.ofString "é"⟩ = "a\uFFFDé" := by
  decide +kernel

/-! ## Renderings -/

theorem toList_render (r : Response) : r.render.toList =
    r.status.line ++ if r.text = "" then [] else '\n' :: r.text.toList := by
  by_cases h : r.text = "" <;> simp [render, h]

/-- **The status line and the text are read off a rendering** at its first newline. -/
theorem parts_render (r : Response) :
    r.render.toList.takeWhile (· != '\n') = r.status.line ∧
      (r.render.toList.dropWhile (· != '\n')).tail = r.text.toList := by
  have hline : ∀ c ∈ r.status.line, (c != '\n') = true := by
    simpa using List.forall_mem_ne'.2 r.status.newline_notMem_line
  rw [toList_render, List.takeWhile_append_of_pos hline, List.dropWhile_append_of_pos hline]
  split
  · next h => simp [h]
  · simp

/-- **What is shown tells the status and the text of the body, and nothing else.** So it tells the
body if that is well-formed; and an empty body is shown like no other, be that made of newlines or
of what could be a status line. -/
theorem render_eq_iff (r s : Response) :
    (r.render = s.render ↔ r.status = s.status ∧ r.text = s.text) ∧
      (r.body.toByteArray.IsValidUTF8 → s.body.toByteArray.IsValidUTF8 →
        (r.render = s.render ↔ r.status = s.status ∧ r.body = s.body)) ∧
      (r.body = [] → s.body ≠ [] → r.render ≠ s.render) := by
  have htold : r.render = s.render ↔ r.status = s.status ∧ r.text = s.text := by
    constructor
    · intro h
      obtain ⟨hline, htext⟩ := parts_render r
      obtain ⟨hline', htext'⟩ := parts_render s
      rw [h] at hline htext
      exact ⟨Status.line_inj.1 (hline.symm.trans hline'),
        String.toList_inj.1 (htext.symm.trans htext')⟩
    · rintro ⟨hstatus, htext⟩
      rw [render, render, hstatus, htext]
  refine ⟨htold, fun hr hs => ?_, fun hr hs h => ?_⟩
  · obtain ⟨u, hu⟩ := Utf8.isValidUTF8_iff.1 hr
    obtain ⟨v, hv⟩ := Utf8.isValidUTF8_iff.1 hs
    rw [htold, text_of_ofString hu, text_of_ofString hv, hu, hv, Utf8.ofString_inj]
  · obtain ⟨-, htext⟩ := htold.1 h
    rw [text_eq_empty_iff.2 hr] at htext
    exact hs (text_eq_empty_iff.1 htext.symm)

end MigrationClient.Http.Response
