import VirtualShell.Text.Split
import VirtualShell.Text.Utf8
/-
  Laws of cutting and joining.

  Splitting goes through a separator as through a joint: what stands before it and what
  stands after it are split on their own. Joining pieces that have no separator in them
  and splitting again gives the pieces back.

  The width of text in UTF-8 is known just if there is no surrogate in it.
-/

namespace VirtualShell.Text

variable {separates : CodePoint → Bool}

theorem pieces_ne_nil (t : Text) : pieces separates t ≠ [] := by
  cases t with
  | nil => simp [pieces]
  | cons c rest =>
    simp only [pieces]
    split
    · simp
    · split <;> simp

/-- No piece has a separator in it. -/
theorem not_separates_of_mem_pieces {t piece : Text} (h : piece ∈ pieces separates t) :
    ∀ c ∈ piece, separates c = false := by
  induction t generalizing piece with
  | nil =>
    rw [pieces, List.mem_singleton] at h
    simp [h]
  | cons c rest ih =>
    by_cases hc : separates c = true
    · rw [pieces, if_pos hc, List.mem_cons] at h
      rcases h with rfl | h
      · simp
      · exact ih h
    · rw [pieces, if_neg hc] at h
      cases hp : pieces separates rest with
      | nil => exact absurd hp (pieces_ne_nil rest)
      | cons first more =>
        rw [hp] at h ih
        rcases List.mem_cons.mp h with rfl | hm
        · intro d hd
          rcases List.mem_cons.mp hd with rfl | hd
          · simpa using hc
          · exact ih List.mem_cons_self d hd
        · exact ih (List.mem_cons_of_mem _ hm)

/-- A piece is made of what is in the text. -/
theorem subset_of_mem_pieces {t piece : Text}
    (h : piece ∈ pieces separates t) : piece ⊆ t := by
  induction t generalizing piece with
  | nil =>
    rw [pieces, List.mem_singleton] at h
    simp [h]
  | cons c rest ih =>
    rw [pieces] at h
    split at h
    · rcases List.mem_cons.mp h with rfl | h
      · exact List.nil_subset _
      · exact List.subset_cons_of_subset c (ih h)
    · cases hp : pieces separates rest with
      | nil => exact absurd hp (pieces_ne_nil rest)
      | cons first more =>
        rw [hp] at h ih
        rcases List.mem_cons.mp h with rfl | h
        · exact List.cons_subset_cons c (ih List.mem_cons_self)
        · exact List.subset_cons_of_subset c (ih (List.mem_cons_of_mem _ h))

theorem pieces_of_none {t : Text} (h : ∀ c ∈ t, separates c = false) :
    pieces separates t = [t] := by
  induction t with
  | nil => rfl
  | cons c rest ih =>
    have hc := h c List.mem_cons_self
    rw [pieces, hc, if_neg (by simp), ih fun d hd => h d (List.mem_cons_of_mem _ hd)]

theorem pieces_append_cons {s : CodePoint} (hs : separates s = true) (before after : Text) :
    pieces separates (before ++ s :: after) =
      pieces separates before ++ pieces separates after := by
  induction before with
  | nil => simp [pieces, hs]
  | cons c rest ih =>
    by_cases hc : separates c = true
    · simp [pieces, hc, ih]
    · simp only [List.cons_append, pieces, hc, ih]
      cases hp : pieces separates rest with
      | nil => exact absurd hp (pieces_ne_nil rest)
      | cons first more => simp

theorem not_mem_of_mem_splitOn {s : CodePoint} {t piece : Text} (h : piece ∈ splitOn s t) :
    s ∉ piece := by
  intro hm
  have := not_separates_of_mem_pieces h s hm
  simp at this

theorem splitOn_of_not_mem {s : CodePoint} {t : Text} (h : s ∉ t) : splitOn s t = [t] := by
  apply pieces_of_none
  intro c hc
  have hne : c ≠ s := fun e => h (e ▸ hc)
  simpa using hne

theorem splitOn_append_cons (s : CodePoint) (before after : Text) :
    splitOn s (before ++ s :: after) = splitOn s before ++ splitOn s after :=
  pieces_append_cons (by simp) before after

/-- Only the last piece of a text changes when something is put at its end. -/
theorem splitOn_append_ending (s : CodePoint) (t : Text) :
    ∃ pieces last, ∀ ending : Text, s ∉ ending →
      splitOn s (t ++ ending) = pieces ++ [last ++ ending] := by
  induction t with
  | nil => exact ⟨[], [], fun ending h => splitOn_of_not_mem h⟩
  | cons c t ih =>
    obtain ⟨found, last, hfound⟩ := ih
    by_cases hc : c = s
    · subst hc
      refine ⟨[] :: found, last, fun ending h => ?_⟩
      have hsplit := splitOn_append_cons c [] (t ++ ending)
      rw [hfound ending h] at hsplit
      exact hsplit
    · cases found with
      | nil =>
        refine ⟨[], c :: last, fun ending h => ?_⟩
        have hrest := hfound ending h
        rw [splitOn] at hrest ⊢
        rw [List.cons_append, pieces, if_neg (by simp [hc]), hrest]
        rfl
      | cons piece found =>
        refine ⟨(c :: piece) :: found, last, fun ending h => ?_⟩
        have hrest := hfound ending h
        rw [splitOn] at hrest ⊢
        rw [List.cons_append, pieces, if_neg (by simp [hc]), hrest]
        rfl

/-! ## Joining -/

@[simp] theorem join_nil (separator : Text) : join separator [] = [] := rfl

@[simp] theorem join_singleton (separator t : Text) : join separator [t] = t := by
  simp [join, List.intercalate]

theorem join_cons_cons (separator t u : Text) (more : List Text) :
    join separator (t :: u :: more) = t ++ separator ++ join separator (u :: more) := by
  simp [join, List.intercalate]

theorem mem_of_mem_join {separator : Text} {c : CodePoint} {ts : List Text}
    (h : c ∈ join separator ts) : c ∈ separator ∨ ∃ t ∈ ts, c ∈ t := by
  induction ts with
  | nil => cases h
  | cons t rest ih =>
    cases rest with
    | nil =>
      rw [join_singleton] at h
      exact .inr ⟨t, List.mem_cons_self, h⟩
    | cons u more =>
      rw [join_cons_cons, List.append_assoc, List.mem_append, List.mem_append] at h
      rcases h with h | h | h
      · exact .inr ⟨t, List.mem_cons_self, h⟩
      · exact .inl h
      · exact (ih h).imp_right fun ⟨u, hu, hc⟩ => ⟨u, List.mem_cons_of_mem _ hu, hc⟩

/-- Pieces joined by a separator that none of them has in it are cut apart again. -/
theorem splitOn_join {s : CodePoint} {ts : List Text} (hne : ts ≠ []) (h : ∀ t ∈ ts, s ∉ t) :
    splitOn s (join [s] ts) = ts := by
  induction ts with
  | nil => exact absurd rfl hne
  | cons t rest ih =>
    obtain ⟨ht, hrest⟩ := List.forall_mem_cons.mp h
    cases rest with
    | nil => rw [join_singleton, splitOn_of_not_mem ht]
    | cons u more =>
      rw [join_cons_cons, List.append_assoc, List.singleton_append, splitOn_append_cons,
        splitOn_of_not_mem ht, ih (by simp) hrest, List.singleton_append]

/-! ## Cutting at the first occurrence -/

theorem cut_eq_none {s : CodePoint} {t : Text} (h : s ∉ t) : cut s t = none := by
  induction t with
  | nil => rfl
  | cons c rest ih =>
    rw [List.mem_cons, not_or] at h
    have hne : c ≠ s := fun e => h.1 e.symm
    rw [cut, if_neg hne, ih h.2]
    rfl

theorem cut_append_cons {s : CodePoint} {before : Text} (h : s ∉ before) (after : Text) :
    cut s (before ++ s :: after) = some (before, after) := by
  induction before with
  | nil => rw [List.nil_append, cut, if_pos rfl]
  | cons c rest ih =>
    rw [List.mem_cons, not_or] at h
    have hne : c ≠ s := fun e => h.1 e.symm
    rw [List.cons_append, cut, if_neg hne, ih h.2]
    rfl

/-! ## Cutting at the last occurrence -/

theorem cutLast_eq_none {s : CodePoint} {t : Text} (h : s ∉ t) : cutLast s t = none := by
  induction t with
  | nil => rfl
  | cons c rest ih =>
    rw [List.mem_cons, not_or] at h
    have hne : c ≠ s := fun e => h.1 e.symm
    simp [cutLast, ih h.2, hne]

theorem cutLast_append_cons {s : CodePoint} (before : Text) {after : Text} (h : s ∉ after) :
    cutLast s (before ++ s :: after) = some (before, after) := by
  induction before with
  | nil => simp [cutLast, cutLast_eq_none h]
  | cons c rest ih => simp [cutLast, ih]

theorem cutLast_eq_none_iff {s : CodePoint} {t : Text} : cutLast s t = none ↔ s ∉ t := by
  refine ⟨fun h => ?_, cutLast_eq_none⟩
  induction t with
  | nil => exact List.not_mem_nil
  | cons c rest ih =>
    rw [cutLast] at h
    cases hrest : cutLast s rest with
    | some p =>
      rw [hrest] at h
      cases h
    | none =>
      have hne : c ≠ s := by
        rintro rfl
        simp [hrest] at h
      rw [List.mem_cons, not_or]
      exact ⟨Ne.symm hne, ih hrest⟩

theorem eq_of_cutLast {s : CodePoint} {t before after : Text}
    (h : cutLast s t = some (before, after)) : t = before ++ s :: after ∧ s ∉ after := by
  induction t generalizing before with
  | nil => cases h
  | cons c rest ih =>
    rw [cutLast] at h
    cases hrest : cutLast s rest with
    | some p =>
      rw [hrest] at h
      cases h
      obtain ⟨heq, hnot⟩ := ih hrest
      exact ⟨congrArg (c :: ·) heq, hnot⟩
    | none =>
      by_cases hc : c = s
      · rw [hrest] at h
        simp only [if_pos hc, Option.some.injEq, Prod.mk.injEq] at h
        obtain ⟨rfl, rfl⟩ := h
        exact ⟨by rw [hc, List.nil_append], cutLast_eq_none_iff.mp hrest⟩
      · simp [hrest, hc] at h

/-! ## Cutting at a text -/

/-- A text no proper beginning of which is an ending of it too, so that two places where it stands
never overlap. -/
def IsUnbordered (mark : Text) : Prop :=
  ∀ n < mark.length, 0 < n → mark.take n ≠ mark.drop (mark.length - n)

instance (mark : Text) : Decidable mark.IsUnbordered :=
  inferInstanceAs (Decidable (∀ n < mark.length, 0 < n → mark.take n ≠ mark.drop (mark.length - n)))

theorem IsUnbordered.eq_nil {mark front border back : Text} (h : mark.IsUnbordered)
    (hends : mark = front ++ border) (hstarts : mark = border ++ back) (hb : border ≠ []) :
    front = [] := by
  have hlength : mark.length = front.length + border.length := by
    rw [hends, List.length_append]
  refine Decidable.byContradiction fun hfront => ?_
  have hpositive := List.length_pos_iff.mpr hfront
  refine h border.length (by omega) (List.length_pos_iff.mpr hb) ?_
  have htake : mark.take border.length = border := by rw [hstarts, List.take_left]
  have hdrop : mark.drop (mark.length - border.length) = border := by
    rw [hlength, Nat.add_sub_cancel, hends, List.drop_left]
  rw [htake, hdrop]

/-- What is cut is put together by the text that it was cut at. -/
theorem eq_of_cutText {mark t before after : Text} (h : cutText mark t = some (before, after)) :
    t = before ++ mark ++ after := by
  induction t generalizing before with
  | nil =>
    rw [cutText] at h
    split at h
    · rename_i hmark
      cases h
      rw [hmark]
      rfl
    · cases h
  | cons c rest ih =>
    rw [cutText] at h
    split at h
    · rename_i hprefix
      cases h
      exact (List.prefix_iff_eq_append.mp (List.isPrefixOf_iff_prefix.mp hprefix)).symm
    · obtain ⟨⟨front, back⟩, hrest, hpair⟩ := Option.map_eq_some_iff.mp h
      cases hpair
      rw [ih hrest]
      rfl

/-- A text is cut at the place where a mark without borders was put, if there is none before. -/
theorem cutText_append {mark before : Text} (hm : mark.IsUnbordered) (hne : mark ≠ [])
    (h : ¬mark <:+: before) (after : Text) :
    cutText mark (before ++ mark ++ after) = some (before, after) := by
  induction before with
  | nil =>
    obtain ⟨c, rest, rfl⟩ := List.exists_cons_of_ne_nil hne
    rw [List.nil_append, List.cons_append, cutText, if_pos (by simp)]
    simp
  | cons c rest ih =>
    have hnot : ¬mark <+: c :: rest ++ (mark ++ after) := by
      rintro ⟨more, hmore⟩
      rcases List.append_eq_append_iff.mp hmore with ⟨left, hleft, -⟩ | ⟨border, hborder, hstarts⟩
      · exact h ⟨[], left, hleft.symm⟩
      -- the two places would overlap, and the overlap would be a border
      · have hprefix : border <+: mark := List.prefix_of_prefix_length_le
          ⟨more, hstarts.symm⟩ (List.prefix_append mark after) (by simp [hborder]; omega)
        obtain ⟨back, hback⟩ := hprefix
        by_cases hempty : border = []
        · rw [hempty, List.append_nil] at hborder
          exact h (hborder ▸ List.infix_refl _)
        · cases hm.eq_nil hborder hback.symm hempty
    rw [List.cons_append] at hnot
    rw [List.append_assoc, List.cons_append, cutText,
      if_neg (fun hp => hnot (List.isPrefixOf_iff_prefix.mp hp)), ← List.append_assoc,
      ih fun hlater => h (hlater.trans (List.suffix_cons c rest).isInfix)]
    rfl

end VirtualShell.Text

/-! ## The width in UTF-8 -/

namespace VirtualShell

theorem CodePoint.utf8Width?_eq_none_iff {c : CodePoint} :
    c.utf8Width? = none ↔ c.isSurrogate = true := by
  rw [utf8Width?]
  split
  · rename_i hc
    simp [hc]
  · rename_i hc
    repeat' split
    all_goals simp [hc]

theorem Text.utf8Length?_eq_none_iff {t : Text} :
    t.utf8Length? = none ↔ t.any CodePoint.isSurrogate = true := by
  induction t with
  | nil => simp [utf8Length?]
  | cons c rest ih =>
    rw [List.any_cons, Bool.or_eq_true, ← ih, ← CodePoint.utf8Width?_eq_none_iff, utf8Length?]
    cases c.utf8Width? <;> cases utf8Length? rest <;> simp

end VirtualShell
