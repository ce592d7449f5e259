import VirtualShell.Proofs.Json.RoundTrip
/-
  What is written is visible.

  No code point outside the visible part of ASCII ever stands in what is written: whatever lies
  outside is escaped, and an escape, a number and the marks between values are visible. So the
  text of a value has a byte for every code point and no line ending in it.
-/

namespace VirtualShell

/-- Visible ASCII alone, the space included. -/
def Text.IsVisible (t : Text) : Prop := ∀ c ∈ t, 0x20 ≤ c.val ∧ c.val < 0x7f

namespace Text

instance (t : Text) : Decidable t.IsVisible :=
  inferInstanceAs (Decidable (∀ c ∈ t, 0x20 ≤ c.val ∧ c.val < 0x7f))

@[simp] theorem isVisible_nil : IsVisible [] := by simp [IsVisible]

@[simp] theorem isVisible_append {s t : Text} :
    IsVisible (s ++ t) ↔ s.IsVisible ∧ t.IsVisible := by
  simp only [IsVisible, List.mem_append]
  grind

theorem IsVisible.of_subset {s t : Text} (h : t.IsVisible) (hs : s ⊆ t) : s.IsVisible :=
  fun c hc => h c (hs hc)

theorem isVisible_replicate {c : CodePoint} (h : IsVisible [c]) (n : Nat) :
    IsVisible (List.replicate n c) := by
  intro d hd
  exact h d (by rw [List.eq_of_mem_replicate hd]; exact List.mem_singleton_self c)

theorem IsDigits.isVisible {ds : Text} (h : ds.IsDigits) : ds.IsVisible := by
  intro c hc
  have hdigit := h c hc
  simp only [CodePoint.isAsciiDigit, Bool.and_eq_true, decide_eq_true_eq] at hdigit
  omega

theorem isVisible_join {separator : Text} (hs : separator.IsVisible) {ts : List Text}
    (h : ∀ t ∈ ts, t.IsVisible) : (join separator ts).IsVisible := by
  induction ts with
  | nil => exact isVisible_nil
  | cons t ts ih =>
    cases ts with
    | nil =>
      rw [join_singleton]
      exact h t List.mem_cons_self
    | cons u ts =>
      rw [join_cons_cons, isVisible_append, isVisible_append]
      exact ⟨⟨h t List.mem_cons_self, hs⟩, ih fun v hv => h v (List.mem_cons_of_mem _ hv)⟩

end Text

/-! ## Numbers -/

theorem Decimal.isVisible_layOut {ds : Text} (h : ds.IsVisible) (e : Int) :
    (layOut ds e).IsVisible := by
  have hzeros : ∀ n, Text.IsVisible (List.replicate n (CodePoint.ofChar '0')) :=
    Text.isVisible_replicate (by decide)
  have htake : ∀ n, Text.IsVisible (ds.take n) := fun n => h.of_subset (List.take_subset n ds)
  have hdrop : ∀ n, Text.IsVisible (ds.drop n) := fun n => h.of_subset (List.drop_subset n ds)
  have hpower : (Text.ofNat e.natAbs).IsVisible := (Text.isDigits_ofNat _).isVisible
  simp only [layOut]
  split
  · split
    · simp only [Text.isVisible_append]
      exact ⟨⟨by decide, hzeros _⟩, h⟩
    · simp only [Text.isVisible_append]
      refine ⟨⟨⟨htake _, hzeros _⟩, by decide⟩, ?_⟩
      split
      · decide
      · exact hdrop _
  · simp only [Text.isVisible_append]
    refine ⟨⟨⟨⟨htake _, ?_⟩, ?_⟩, hzeros _⟩, hpower⟩
    · split
      · exact Text.isVisible_nil
      · rw [Text.isVisible_append]
        exact ⟨by decide, hdrop 1⟩
    · split <;> decide

theorem Decimal.isVisible_written (d : Decimal) : d.written.IsVisible := by
  obtain ⟨k, hk⟩ := ofNat_eq_significantDigits d
  have hkept : d.significantDigits.1 ⊆ Text.ofNat d.digits := by
    rw [hk]
    exact List.subset_append_left _ _
  exact isVisible_layOut ((Text.isDigits_ofNat _).isVisible.of_subset hkept) _

theorem isVisible_writtenFloat {names : SpecialNames} (hi : names.infinity.IsVisible)
    (hn : names.notANumber.IsVisible) (x : Float) : (writtenFloat names x).IsVisible := by
  have hsigned : ∀ (negative : Bool) {t : Text}, t.IsVisible →
      (if negative then Text.ofString "-" ++ t else t).IsVisible := by
    intro negative t ht
    split
    · rw [Text.isVisible_append]
      exact ⟨by decide, ht⟩
    · exact ht
  rw [writtenFloat]
  split
  · exact hn
  · exact hsigned _ hi
  · refine hsigned _ ?_
    split
    · decide
    · exact Decimal.isVisible_written _

/-! ## Escapes -/

theorem isVisible_escapedUnit {n : Nat} (h : n < 0x10000) : (escapedUnit n).IsVisible := by
  have hall : ∀ d : Fin 16, Text.IsVisible [CodePoint.ofHexDigit d] := by decide
  have hdigit : ∀ d, d < 16 → Text.IsVisible [CodePoint.ofHexDigit d] := fun d hd => hall ⟨d, hd⟩
  have hmark : Text.IsVisible [CodePoint.ofChar '\\', CodePoint.ofChar 'u'] := by decide
  rw [Json.escapedUnit_eq, Text.hex_eq h]
  have hsplit := Text.isVisible_append.mpr ⟨hmark, Text.isVisible_append.mpr
    ⟨hdigit (n / 0x1000) (by omega), Text.isVisible_append.mpr
      ⟨hdigit (n / 0x100 % 0x10) (by omega), Text.isVisible_append.mpr
        ⟨hdigit (n / 0x10 % 0x10) (by omega), hdigit (n % 0x10) (by omega)⟩⟩⟩⟩
  exact hsplit

theorem CodePoint.isVisible_jsonEscaped (c : CodePoint) : c.jsonEscaped.IsVisible := by
  by_cases hl : c ∈ Json.lettered
  · have hall : ∀ c ∈ Json.lettered, c.jsonEscaped.IsVisible := by decide
    exact hall c hl
  · have hvalid := c.isValid
    rw [Json.jsonEscaped_of_not_lettered hl]
    split
    · rename_i hvisible
      simp only [Bool.and_eq_true, decide_eq_true_eq] at hvisible
      intro d hd
      rw [List.mem_singleton.mp hd]
      exact hvisible
    split
    · exact isVisible_escapedUnit ‹_›
    · rw [Text.isVisible_append]
      exact ⟨isVisible_escapedUnit (by omega), isVisible_escapedUnit (by omega)⟩

namespace Json

theorem isVisible_writeText (t : Text) : (writeText t).IsVisible := by
  rw [writeText, Text.isVisible_append, Text.isVisible_append]
  refine ⟨⟨by decide, fun d hd => ?_⟩, by decide⟩
  obtain ⟨c, -, hc⟩ := List.mem_flatMap.mp hd
  exact c.isVisible_jsonEscaped d hc

theorem isVisible_writeNumber (n : Number) : (writeNumber n).IsVisible := by
  cases n with
  | integer n =>
    cases n with
    | ofNat n => exact (Text.isDigits_ofNat n).isVisible
    | negSucc n =>
      have hminus : Text.IsVisible [CodePoint.ofChar '-'] := by decide
      exact Text.isVisible_append.mpr ⟨hminus, (Text.isDigits_ofNat (n + 1)).isVisible⟩
  | real x => exact isVisible_writtenFloat (by decide) (by decide) x

mutual

/-- Whatever value is written, its text is visible ASCII. -/
theorem isVisible_write : ∀ v : Json, v.write.IsVisible
  | .null => by decide
  | .boolean true => by decide
  | .boolean false => by decide
  | .number n => isVisible_writeNumber n
  | .text t => isVisible_writeText t
  | .array items => by
    rw [write, Text.isVisible_append, Text.isVisible_append]
    exact ⟨⟨by decide, Text.isVisible_join (by decide) (isVisible_writeItems items)⟩, by decide⟩
  | .object fields => by
    rw [write, Text.isVisible_append, Text.isVisible_append]
    exact ⟨⟨by decide, Text.isVisible_join (by decide) (isVisible_writeFields fields)⟩, by decide⟩

theorem isVisible_writeItems : ∀ items : List Json, ∀ t ∈ writeItems items, t.IsVisible
  | [] => by simp [writeItems]
  | v :: rest => by
    intro t ht
    rw [writeItems, List.mem_cons] at ht
    rcases ht with rfl | ht
    · exact isVisible_write v
    · exact isVisible_writeItems rest t ht

theorem isVisible_writeFields :
    ∀ fields : List (Text × Json), ∀ t ∈ writeFields fields, t.IsVisible
  | [] => by simp [writeFields]
  | (key, v) :: rest => by
    intro t ht
    rw [writeFields, List.mem_cons] at ht
    rcases ht with rfl | ht
    · rw [Text.isVisible_append, Text.isVisible_append]
      exact ⟨⟨isVisible_writeText key, by decide⟩, isVisible_write v⟩
    · exact isVisible_writeFields rest t ht

end

end Json

end VirtualShell
