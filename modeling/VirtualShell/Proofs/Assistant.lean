import VirtualShell.Pipeline
import VirtualShell.Proofs.Text.Case
import VirtualShell.Proofs.Text.Words
/-
  Requests to the assistant.

  Whether a line is a request is decided on the lowered line and the prompt is cut out of the line as
  it was typed, by position. The two agree since the mark can only come from three code points, the
  two letters in either case and the space. White space around the line does not count, and so there
  is something behind the mark: every request has a prompt.
-/

namespace VirtualShell

variable {line : Text}

/-- A text that starts with the mark of a request in upper or lower case. -/
def StartsAsRequest : Text → Prop
  | a :: i :: space :: _ => (a = 'a' ∨ a = 'A') ∧ (i = 'i' ∨ i = 'I') ∧ space = ' '
  | _ => False

/-- A text that can be put to the assistant: it is not empty and has no white space at its ends. -/
structure IsPrompt (t : Text) : Prop where
  ne_nil : t ≠ []
  head : ∀ c ∈ t.head?, c.isBlank = false
  getLast : ∀ c ∈ t.getLast?, c.isBlank = false

/-! ## The mark -/

theorem requestMark_prefix_lower_iff (t : Text) :
    requestMark <+: t.lower ↔ StartsAsRequest t := by
  have hmark : requestMark =
      [CodePoint.ofChar 'a', CodePoint.ofChar 'i', CodePoint.ofChar ' '] := rfl
  have hnil {x : CodePoint} {p before : Text} : ¬ x :: p <+: Text.lowerAfter before [] := by
    simp [Text.lowerAfter]
  rw [hmark, Text.lower]
  rcases t with _ | ⟨a, _ | ⟨i, _ | ⟨space, rest⟩⟩⟩
  · exact iff_of_false hnil id
  · rw [Text.cons_prefix_lowerAfter_cons (by decide) (by decide)]
    exact iff_of_false (fun h => hnil h.2) id
  · rw [Text.cons_prefix_lowerAfter_cons (by decide) (by decide),
      Text.cons_prefix_lowerAfter_cons (by decide) (by decide)]
    exact iff_of_false (fun h => hnil h.2.2) id
  · rw [Text.cons_prefix_lowerAfter_cons (by decide) (by decide),
      Text.cons_prefix_lowerAfter_cons (by decide) (by decide),
      Text.cons_prefix_lowerAfter_cons (by decide) (by decide),
      CodePoint.lower_eq_iff 'A' (by decide) (by decide) (by decide) (by decide),
      CodePoint.lower_eq_iff 'I' (by decide) (by decide) (by decide) (by decide),
      CodePoint.lower_eq_iff_eq (by decide) (by decide)]
    simp [StartsAsRequest]

theorem isRequest_iff : isRequest line = true ↔ StartsAsRequest line.trim := by
  rw [isRequest, List.isPrefixOf_iff_prefix, requestMark_prefix_lower_iff]

theorem isBlank_of_isRequest (h : isRequest line = true) : line.isBlank = false := by
  rw [Bool.eq_false_iff]
  intro hblank
  have htrim := Text.trim_blank_append (t := []) hblank (by simp) (by simp)
  rw [List.append_nil] at htrim
  rw [isRequest_iff, htrim] at h
  exact h

/-- What starts as a request is three code points and the rest. -/
theorem StartsAsRequest.exists_eq {t : Text} (h : StartsAsRequest t) :
    ∃ a i rest, t = a :: i :: CodePoint.ofChar ' ' :: rest := by
  rcases t with _ | ⟨a, _ | ⟨i, _ | ⟨space, rest⟩⟩⟩
  · exact h.elim
  · exact h.elim
  · exact h.elim
  · obtain ⟨-, -, rfl⟩ := h
    exact ⟨a, i, rest, rfl⟩

/-! ## The prompt -/

/-- What stands behind the mark of a request is white space and a prompt. -/
theorem exists_prompt_of_isRequest (h : isRequest line = true) :
    IsPrompt (requestPrompt line) ∧ ∃ gap : Text, gap.isBlank = true ∧
      line.trim.drop requestMark.length = gap ++ requestPrompt line := by
  obtain ⟨a, i, rest, ht⟩ := (isRequest_iff.mp h).exists_eq
  have hrest : line.trim.drop requestMark.length = rest := by
    rw [ht]
    rfl
  -- the space and what stands behind it end as the line does
  have hlast : ∀ c ∈ (CodePoint.ofChar ' ' :: rest).getLast?, c.isBlank = false := by
    have hline := Text.getLast_trim line
    rwa [ht, List.getLast?_cons_cons, List.getLast?_cons_cons] at hline
  obtain ⟨gap, hgap, hprompt⟩ := Text.exists_eq_append_trim_of_getLast (t := rest) fun c hc =>
    hlast c (by rw [List.getLast?_cons, Option.mem_def.mp hc]; rfl)
  rw [requestPrompt, hrest]
  refine ⟨⟨fun hnil => ?_, Text.head_trim rest, Text.getLast_trim rest⟩, gap, hgap, hprompt⟩
  rw [hnil, List.append_nil] at hprompt
  exact Text.not_isBlank_of_getLast (List.cons_ne_nil _ _) hlast
    (Text.isBlank_cons.mpr ⟨by decide, hprompt ▸ hgap⟩)

end VirtualShell
