import VirtualShell.Proofs.Text
/-
  Words and the white space around them.

  The words of a text are read between stretches of white space, so white space at either end
  changes nothing, and trimming takes away just that. This holds piece by piece as well: a text that
  is cut at a code point which is no white space has the same words in each piece, trimmed or not.
  Words with one space between neighbours are read back.
-/

namespace VirtualShell.Text

variable {t blank : Text}

theorem isBlank_cons {c : CodePoint} :
    isBlank (c :: t) = true ↔ c.isBlank = true ∧ t.isBlank = true := by
  rw [isBlank, List.all_cons, Bool.and_eq_true]
  rfl

theorem not_mem_of_isBlank {s : CodePoint} (hs : s.isBlank = false) (h : t.isBlank = true) :
    s ∉ t := by
  intro hm
  rw [List.all_eq_true.mp h s hm] at hs
  cases hs

/-! ## White space holds no words -/

@[simp] theorem words_nil : words [] = [] := rfl

theorem words_append_cons {c : CodePoint} (hc : c.isBlank = true) (before after : Text) :
    words (before ++ c :: after) = words before ++ words after := by
  rw [words, pieces_append_cons hc, List.filter_append]
  rfl

theorem words_blank_append (h : blank.isBlank = true) (t : Text) :
    words (blank ++ t) = words t := by
  induction blank with
  | nil => rfl
  | cons c rest ih =>
    obtain ⟨hc, hrest⟩ := isBlank_cons.mp h
    exact (words_append_cons hc [] (rest ++ t)).trans (ih hrest)

theorem words_append_blank (t : Text) (h : blank.isBlank = true) :
    words (t ++ blank) = words t := by
  cases blank with
  | nil => rw [List.append_nil]
  | cons c rest =>
    obtain ⟨hc, hrest⟩ := isBlank_cons.mp h
    have hnone : words (rest ++ []) = [] := words_blank_append hrest []
    rw [words_append_cons hc, ← List.append_nil rest, hnone, List.append_nil]

/-- No word is empty, and none has white space in it. -/
theorem plain_of_mem_words {word : Text} (h : word ∈ words t) :
    word ≠ [] ∧ ∀ c ∈ word, c.isBlank = false := by
  obtain ⟨hpiece, hne⟩ := List.mem_filter.mp h
  exact ⟨by simpa using hne, not_separates_of_mem_pieces hpiece⟩

/-- Words with a space between neighbours are the words of the text that they make. -/
theorem words_join {ws : List Text} (h : ∀ word ∈ ws, word ≠ [] ∧ ∀ c ∈ word, c.isBlank = false) :
    words (join " " ws) = ws := by
  induction ws with
  | nil => rfl
  | cons word rest ih =>
    obtain ⟨⟨hne, hplain⟩, hrest⟩ := List.forall_mem_cons.mp h
    have hword : words word = [word] := by
      rw [words, pieces_of_none hplain]
      simp [hne]
    cases rest with
    | nil => rw [join_singleton, hword]
    | cons next more =>
      have hspace : word ++ " " ++ join " " (next :: more) =
          word ++ CodePoint.ofChar ' ' :: join " " (next :: more) := by simp [ofString]
      rw [join_cons_cons, hspace, words_append_cons (by decide), hword, ih hrest]
      rfl

/-! ## Trimming -/

theorem exists_trimLeft_eq (t : Text) :
    ∃ back : Text, back.isBlank = true ∧ t.trimLeft = t.trim ++ back := by
  refine ⟨(t.trimLeft.reverse.takeWhile CodePoint.isBlank).reverse, ?_, ?_⟩
  · rw [isBlank, List.all_reverse]
    exact List.all_takeWhile
  · rw [trim, trimRight, ← List.reverse_append, List.takeWhile_append_dropWhile,
      List.reverse_reverse]

/-- A text is its trimmed self with white space around it. -/
theorem exists_eq_append_trim (t : Text) : ∃ front back : Text,
    front.isBlank = true ∧ back.isBlank = true ∧ t = front ++ t.trim ++ back := by
  obtain ⟨back, hback, hleft⟩ := exists_trimLeft_eq t
  refine ⟨t.takeWhile CodePoint.isBlank, back, List.all_takeWhile, hback, ?_⟩
  rw [List.append_assoc, ← hleft]
  exact List.takeWhile_append_dropWhile.symm

theorem words_trim (t : Text) : words t.trim = words t := by
  obtain ⟨front, back, hfront, hback, ht⟩ := exists_eq_append_trim t
  calc words t.trim
    _ = words (front ++ t.trim) := (words_blank_append hfront _).symm
    _ = words (front ++ t.trim ++ back) := (words_append_blank _ hback).symm
    _ = words t := by rw [← ht]

theorem dropWhile_of_head {p : CodePoint → Bool} (h : ∀ c ∈ t.head?, p c = false) :
    t.dropWhile p = t := by
  cases t with
  | nil => rfl
  | cons c rest => rw [List.dropWhile_cons, h c rfl, if_neg (by simp)]

/-- White space in front goes, and a text that has none at its ends stays as it is. -/
theorem trim_blank_append (h : blank.isBlank = true) (hhead : ∀ c ∈ t.head?, c.isBlank = false)
    (hlast : ∀ c ∈ t.getLast?, c.isBlank = false) : trim (blank ++ t) = t := by
  have hleft : trimLeft (blank ++ t) = t := by
    rw [trimLeft, List.dropWhile_append_of_pos (List.all_eq_true.mp h), dropWhile_of_head hhead]
  rw [trim, hleft, trimRight, dropWhile_of_head, List.reverse_reverse]
  rwa [List.head?_reverse]

theorem head_dropWhile {p : CodePoint → Bool} (t : Text) :
    ∀ c ∈ (t.dropWhile p).head?, p c = false := by
  intro c hc
  have := List.head?_dropWhile_not p t
  rw [Option.mem_def.mp hc] at this
  simpa using this

/-- No white space is left at the start of a trimmed text. -/
theorem head_trim (t : Text) : ∀ c ∈ t.trim.head?, c.isBlank = false := by
  intro c hc
  obtain ⟨back, -, hleft⟩ := exists_trimLeft_eq t
  refine head_dropWhile t c ?_
  rw [← trimLeft, hleft, List.head?_append, Option.mem_def.mp hc]
  rfl

/-- No white space is left at the end of a trimmed text. -/
theorem getLast_trim (t : Text) : ∀ c ∈ t.trim.getLast?, c.isBlank = false := by
  rw [trim, trimRight, List.getLast?_reverse]
  exact head_dropWhile _

theorem not_isBlank_of_getLast (hne : t ≠ []) (h : ∀ c ∈ t.getLast?, c.isBlank = false) :
    ¬ t.isBlank = true := by
  intro hblank
  have hlast := h _ (List.getLast?_eq_some_getLast hne)
  rw [List.all_eq_true.mp hblank _ (List.getLast_mem hne)] at hlast
  cases hlast

/-- A text without white space at its end is its trimmed self with white space in front. -/
theorem exists_eq_append_trim_of_getLast (h : ∀ c ∈ t.getLast?, c.isBlank = false) :
    ∃ gap : Text, gap.isBlank = true ∧ t = gap ++ t.trim := by
  obtain ⟨front, back, hfront, hback, ht⟩ := exists_eq_append_trim t
  by_cases hne : back = []
  · rw [hne, List.append_nil] at ht
    exact ⟨front, hfront, ht⟩
  · refine absurd hback (not_isBlank_of_getLast hne fun c hc => h c ?_)
    rw [ht, List.getLast?_append, Option.mem_def.mp hc]
    rfl

/-! ## Piece by piece -/

variable {s : CodePoint}

theorem map_words_splitOn_append_blank (hs : s.isBlank = false) (t : Text)
    (h : blank.isBlank = true) :
    (splitOn s (t ++ blank)).map words = (splitOn s t).map words := by
  obtain ⟨found, last, hsplit⟩ := splitOn_append_ending s t
  have hnone := hsplit [] (by simp)
  rw [List.append_nil, List.append_nil] at hnone
  rw [hsplit blank (not_mem_of_isBlank hs h), hnone]
  simp [words_append_blank last h]

theorem map_words_splitOn_blank_append (hs : s.isBlank = false) (h : blank.isBlank = true)
    (t : Text) : (splitOn s (blank ++ t)).map words = (splitOn s t).map words := by
  induction blank with
  | nil => rfl
  | cons c rest ih =>
    obtain ⟨hc, hrest⟩ := isBlank_cons.mp h
    have hne : (c == s) = false := by
      rw [beq_eq_false_iff_ne]
      rintro rfl
      rw [hc] at hs
      cases hs
    rw [← ih hrest, List.cons_append, splitOn, splitOn, pieces, hne, if_neg (by simp)]
    cases hp : pieces (· == s) (rest ++ t) with
    | nil => exact absurd hp (pieces_ne_nil _)
    | cons first more =>
      have hfirst : words (c :: first) = words first := words_append_cons hc [] first
      rw [List.map_cons, List.map_cons, hfirst]

theorem map_words_splitOn_trim (hs : s.isBlank = false) (t : Text) :
    (splitOn s t.trim).map words = (splitOn s t).map words := by
  obtain ⟨front, back, hfront, hback, ht⟩ := exists_eq_append_trim t
  calc (splitOn s t.trim).map words
    _ = (splitOn s (front ++ t.trim)).map words :=
      (map_words_splitOn_blank_append hs hfront _).symm
    _ = (splitOn s (front ++ t.trim ++ back)).map words :=
      (map_words_splitOn_append_blank hs _ hback).symm
    _ = (splitOn s t).map words := by rw [← ht]

end VirtualShell.Text
