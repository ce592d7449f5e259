import Mathlib.Data.List.Chain
import Mathlib.Data.List.Induction
import VirtualShell.Proofs.Text.Words
import VirtualShell.Text.Wrap
/-
  Words broken into lines.

  `IsBreaking` says when lines are words broken for a width: the words are all there in their order,
  and a line fits unless it is a single word. Filling a line until a word does not fit gives such a
  breaking, and one in as few lines as there can be. The reason is that a line begun never costs
  more than one line over any other line begun with the same words to come, and none at all over a
  longer one (`length_fill_le`); so it does no harm to take a word that fits.

  The lines of a wrapped text have spaces at their ends up to the length of the longest. Their words
  are those of the lines before padding, so the lines are known by their words.
-/

namespace VirtualShell.Text

variable {width : Int} {line other more ws : List Text} {lines : List (List Text)} {word t : Text}

/-! ## Breaking words into lines -/

/-- A line of two words or more is no longer than the width; a single word may be. -/
def Fits (width : Int) (line : List Text) : Prop :=
  2 ≤ line.length → ((join " " line).length : Int) ≤ width

instance (width : Int) (line : List Text) : Decidable (Fits width line) :=
  inferInstanceAs (Decidable (2 ≤ line.length → ((join " " line).length : Int) ≤ width))

/-- Words broken into lines for a width. -/
structure IsBreaking (width : Int) (ws : List Text) (lines : List (List Text)) : Prop where
  flatten : lines.flatten = ws
  fits : ∀ line ∈ lines, Fits width line

/-- The next line starts with a word that would not have fitted on the line, with a space. -/
def Overflows (width : Int) (line next : List Text) : Prop :=
  ∃ word more, next = word :: more ∧ width < (join " " line).length + 1 + word.length

/-- The lines, word by word, that a line begun and the words to come make up. -/
def fill (width : Int) : List Text → List Text → List (List Text)
  | line, [] => [line]
  | line, word :: ws =>
    if line ≠ [] ∧ width < (join " " line).length + 1 + word.length then
      line :: fill width [word] ws
    else fill width (line ++ [word]) ws

theorem join_concat {separator : Text} (h : line ≠ []) (word : Text) :
    join separator (line ++ [word]) = join separator line ++ separator ++ word := by
  induction line with
  | nil => exact absurd rfl h
  | cons first rest ih =>
    cases rest with
    | nil => rw [List.singleton_append, join_cons_cons, join_singleton, join_singleton]
    | cons next rest =>
      have ih := ih (by simp)
      rw [List.cons_append] at ih
      rw [List.cons_append, List.cons_append, join_cons_cons, ih, join_cons_cons]
      simp only [List.append_assoc]

theorem length_join_concat (h : line ≠ []) (word : Text) :
    (join " " (line ++ [word])).length = (join " " line).length + 1 + word.length := by
  rw [join_concat h, List.length_append, List.length_append]
  rfl

theorem length_join_le_append (line more : List Text) :
    (join " " line).length ≤ (join " " (line ++ more)).length := by
  induction more using List.reverseRecOn with
  | nil => rw [List.append_nil]
  | append_singleton more word ih =>
    rw [← List.append_assoc]
    by_cases hempty : line ++ more = []
    · rw [(List.append_eq_nil_iff.mp hempty).1]
      exact Nat.zero_le _
    · rw [length_join_concat hempty]
      omega

theorem join_ne_nil {separator : Text} (h : line ≠ []) (hwords : ∀ word ∈ line, word ≠ []) :
    join separator line ≠ [] := by
  cases line with
  | nil => exact absurd rfl h
  | cons first rest =>
    have hfirst := hwords first List.mem_cons_self
    cases rest with
    | nil => rwa [join_singleton]
    | cons next rest =>
      rw [join_cons_cons, List.append_assoc]
      exact fun he => hfirst (List.append_eq_nil_iff.mp he).1

/-- Filling lines with text is filling them with words. -/
theorem fillLines_join (hline : ∀ word ∈ line, word ≠ []) (hws : ∀ word ∈ ws, word ≠ []) :
    fillLines width (join " " line) ws = (fill width line ws).map (join " ") := by
  induction ws generalizing line with
  | nil => rfl
  | cons word ws ih =>
    obtain ⟨hword, hws⟩ := List.forall_mem_cons.mp hws
    have hsingle : ∀ w ∈ [word], w ≠ [] := by simpa using hword
    by_cases hempty : line = []
    · subst hempty
      have ih := ih hsingle hws
      rw [join_singleton] at ih
      rw [fillLines, fill, join_nil, if_pos rfl, if_neg (by simp), ih,
        List.nil_append]
    · rw [fillLines, fill, if_neg (join_ne_nil hempty hline)]
      by_cases hover : width < (join " " line).length + 1 + word.length
      · have ih := ih hsingle hws
        rw [join_singleton] at ih
        rw [if_pos hover, if_pos ⟨hempty, hover⟩, ih, List.map_cons]
      · have hconcat : ∀ w ∈ line ++ [word], w ≠ [] :=
          fun w hw => (List.mem_append.mp hw).elim (hline w) (hsingle w)
        have ih := ih hconcat hws
        rw [join_concat hempty] at ih
        rw [if_neg hover, if_neg fun h => hover h.2, ← ih]

/-! ## What filling gives -/

theorem fill_ne_nil (width : Int) (line ws : List Text) : fill width line ws ≠ [] := by
  fun_induction fill width line ws with
  | case1 line => simp
  | case2 line word ws _ _ => simp
  | case3 line word ws _ ih => exact ih

theorem flatten_fill (width : Int) (line ws : List Text) :
    (fill width line ws).flatten = line ++ ws := by
  fun_induction fill width line ws with
  | case1 line => simp
  | case2 line word ws _ ih => rw [List.flatten_cons, ih, List.singleton_append]
  | case3 line word ws _ ih => rw [ih, List.append_assoc, List.singleton_append]

/-- The first line goes on from the line begun. -/
theorem exists_head_fill (width : Int) (line ws : List Text) :
    ∃ more rest, fill width line ws = (line ++ more) :: rest := by
  fun_induction fill width line ws with
  | case1 line => exact ⟨[], [], by rw [List.append_nil]⟩
  | case2 line word ws _ _ => exact ⟨[], _, by rw [List.append_nil]⟩
  | case3 line word ws _ ih =>
    obtain ⟨more, rest, hfill⟩ := ih
    exact ⟨word :: more, rest, by rw [hfill, List.append_assoc, List.singleton_append]⟩

theorem fits_singleton (width : Int) (word : Text) : Fits width [word] :=
  fun htwo => absurd htwo (by simp)

/-- If the line begun fits, all lines do. -/
theorem fits_fill (h : Fits width line) : ∀ l ∈ fill width line ws, Fits width l := by
  fun_induction fill width line ws with
  | case1 line => simpa using h
  | case2 line word ws _ ih => exact List.forall_mem_cons.mpr ⟨h, ih (fits_singleton width word)⟩
  | case3 line word ws hfits ih =>
    refine ih fun htwo => ?_
    have hne : line ≠ [] := by
      rintro rfl
      simp at htwo
    rw [length_join_concat hne]
    push_cast
    exact Int.not_lt.mp fun hover => hfits ⟨hne, hover⟩

theorem isChain_fill (width : Int) (line ws : List Text) :
    (fill width line ws).IsChain (Overflows width) := by
  fun_induction fill width line ws with
  | case1 line => exact List.isChain_singleton line
  | case2 line word ws hover ih =>
    refine List.isChain_cons.mpr ⟨fun next hnext => ?_, ih⟩
    obtain ⟨more, rest, hfill⟩ := exists_head_fill width [word] ws
    rw [hfill, List.head?_cons, Option.mem_some_iff] at hnext
    exact ⟨word, more, hnext.symm, hover.2⟩
  | case3 line word ws _ ih => exact ih

/-! ## No breaking has fewer lines -/

/-- Of two lines begun with the same words to come, one costs at most one line more than the other,
and none more if it is no longer. -/
theorem length_fill_le (hline : line ≠ []) (hother : other ≠ []) :
    (fill width line ws).length ≤ (fill width other ws).length + 1 ∧
      ((join " " line).length ≤ (join " " other).length →
        (fill width line ws).length ≤ (fill width other ws).length) := by
  induction ws generalizing line other with
  | nil => exact ⟨Nat.le_succ _, fun _ => Nat.le_refl _⟩
  | cons word ws ih =>
    have hl := length_join_concat hline word
    have ho := length_join_concat hother word
    have hw : (join " " [word]).length = word.length := by rw [join_singleton]
    rw [fill, fill]
    by_cases hbreak : width < (join " " line).length + 1 + word.length
    · rw [if_pos ⟨hline, hbreak⟩, List.length_cons]
      -- where both lines end here, what follows is the same
      by_cases hbreak' : width < (join " " other).length + 1 + word.length
      · rw [if_pos ⟨hother, hbreak'⟩, List.length_cons]
        exact ⟨Nat.le_succ _, fun _ => Nat.le_refl _⟩
      · -- the word begins a line here and is the end of one there
        have hle : (fill width [word] ws).length ≤ (fill width (other ++ [word]) ws).length :=
          (ih (by simp) (by simp)).2 (by omega)
        rw [if_neg fun h => hbreak' h.2]
        exact ⟨by omega, fun h => by omega⟩
    · rw [if_neg fun h => hbreak h.2]
      by_cases hbreak' : width < (join " " other).length + 1 + word.length
      · have hle : (fill width (line ++ [word]) ws).length ≤ (fill width [word] ws).length + 1 :=
          (ih (by simp) (by simp)).1
        rw [if_pos ⟨hother, hbreak'⟩, List.length_cons]
        exact ⟨by omega, fun _ => hle⟩
      · have hle := @ih (line ++ [word]) (other ++ [word]) (by simp) (by simp)
        rw [if_neg fun h => hbreak' h.2]
        exact ⟨hle.1, fun h => hle.2 (by omega)⟩

/-- To begin a line anew with the next word saves none. -/
theorem length_fill_cons_le (line : List Text) (word : Text) (ws : List Text) :
    (fill width line (word :: ws)).length ≤ (fill width [word] ws).length + 1 := by
  rw [fill]
  split
  · exact Nat.le_refl _
  · exact (length_fill_le (by simp) (by simp)).1

/-- Words that fit on the line begun all come to stand on it. -/
theorem fill_append (hline : line ≠ [])
    (h : more ≠ [] → ((join " " (line ++ more)).length : Int) ≤ width) (ws : List Text) :
    fill width line (more ++ ws) = fill width (line ++ more) ws := by
  induction more generalizing line with
  | nil => rw [List.nil_append, List.append_nil]
  | cons word more ih =>
    have hsame : line ++ word :: more = line ++ [word] ++ more := by simp
    have hall := h (by simp)
    rw [hsame] at hall
    -- the words up to this one are no longer than all of them, and all of them fit
    have hfits : ¬ width < (join " " line).length + 1 + word.length := by
      have hlength := length_join_concat hline word
      have hle : (join " " (line ++ [word])).length ≤
          (join " " (line ++ [word] ++ more)).length := length_join_le_append _ _
      omega
    rw [List.cons_append, fill, if_neg fun hover => hfits hover.2, ih (by simp) fun _ => hall,
      hsame]

/-- A line that fits is filled with its words once it is begun with the first of them. -/
theorem fill_singleton_append (h : Fits width (word :: more)) (ws : List Text) :
    fill width [word] (more ++ ws) = fill width (word :: more) ws :=
  fill_append (by simp) (fun hmore => h (Nat.succ_le_succ (List.length_pos_iff.mpr hmore))) ws

theorem length_fill_flatten_le (hline : line ≠ []) (h : ∀ l ∈ lines, Fits width l) :
    (fill width line lines.flatten).length ≤ lines.length + 1 := by
  induction lines generalizing line with
  | nil => exact Nat.le_refl _
  | cons l lines ih =>
    obtain ⟨hl, hlines⟩ := List.forall_mem_cons.mp h
    cases l with
    | nil => exact Nat.le_succ_of_le (ih hline hlines)
    | cons word more =>
      calc (fill width line (word :: (more ++ lines.flatten))).length
        _ ≤ (fill width [word] (more ++ lines.flatten)).length + 1 :=
          length_fill_cons_le line word _
        _ = (fill width (word :: more) lines.flatten).length + 1 := by
          rw [fill_singleton_append hl]
        _ ≤ lines.length + 1 + 1 := Nat.succ_le_succ (ih (by simp) hlines)

/-- Filling lines breaks words into as few lines as there can be. -/
theorem IsBreaking.length_fill_le (h : IsBreaking width ws lines) (hws : ws ≠ []) :
    (fill width [] ws).length ≤ lines.length := by
  obtain ⟨rfl, hfits⟩ := h
  induction lines with
  | nil => exact absurd rfl hws
  | cons l lines ih =>
    obtain ⟨hl, hlines⟩ := List.forall_mem_cons.mp hfits
    cases l with
    -- an empty line costs the other breaking one line and holds no word
    | nil => exact Nat.le_succ_of_le (ih hlines hws)
    | cons word more =>
      have hfirst : fill width [] (word :: (more ++ lines.flatten)) =
          fill width [word] (more ++ lines.flatten) := by
        rw [fill, if_neg (by simp)]
        rfl
      calc (fill width [] (word :: (more ++ lines.flatten))).length
        _ = (fill width (word :: more) lines.flatten).length := by
          rw [hfirst, fill_singleton_append hl]
        _ ≤ lines.length + 1 := length_fill_flatten_le (by simp) hlines

theorem isBreaking_fill (width : Int) (ws : List Text) :
    IsBreaking width ws (fill width [] ws) where
  flatten := flatten_fill width [] ws
  fits := fits_fill fun htwo => absurd htwo (by simp)

/-! ## Lines of one length -/

variable {ts : List Text}

theorem longest_concat (ts : List Text) (t : Text) :
    longest (ts ++ [t]) = max (longest ts) t.length := by
  rw [longest, List.foldl_append]
  rfl

theorem length_le_longest (h : t ∈ ts) : t.length ≤ longest ts := by
  induction ts using List.reverseRecOn with
  | nil => cases h
  | append_singleton ts u ih =>
    rw [longest_concat]
    rcases List.mem_append.mp h with h | h
    · exact (ih h).trans (Nat.le_max_left _ _)
    · rw [List.mem_singleton.mp h]
      exact Nat.le_max_right _ _

theorem exists_length_eq_longest (h : ts ≠ []) : ∃ t ∈ ts, t.length = longest ts := by
  induction ts using List.reverseRecOn with
  | nil => exact absurd rfl h
  | append_singleton ts u ih =>
    rw [longest_concat]
    rcases Nat.le_total (longest ts) u.length with hle | hle
    · exact ⟨u, by simp, (Nat.max_eq_right hle).symm⟩
    · rw [Nat.max_eq_left hle]
      by_cases hts : ts = []
      · subst hts
        exact ⟨u, by simp, Nat.le_antisymm hle (Nat.zero_le _)⟩
      · obtain ⟨t, ht, hlength⟩ := ih hts
        exact ⟨t, List.mem_append_left _ ht, hlength⟩

theorem length_padRight {n : Nat} (h : t.length ≤ n) : (padRight n t).length = n := by
  rw [padRight, List.length_append, List.length_replicate]
  omega

theorem words_padRight (n : Nat) (t : Text) : words (padRight n t) = words t := by
  have hblank : isBlank (List.replicate (n - t.length) (CodePoint.ofChar ' ')) = true := by
    rw [isBlank, List.all_replicate]
    exact ite_eq_left_iff.mpr fun _ => by decide
  exact words_append_blank t hblank

theorem words_filled (width : Int) (t : Text) :
    fillLines width [] t.words = (fill width [] t.words).map (join " ") ∧
      ∀ line ∈ fill width [] t.words, words (join " " line) = line := by
  have hplain : ∀ word ∈ t.words, word ≠ [] ∧ ∀ c ∈ word, c.isBlank = false :=
    fun _ hword => plain_of_mem_words hword
  have hnone : ∀ word ∈ ([] : List Text), word ≠ [] := by simp
  refine ⟨fillLines_join hnone fun word hword => (hplain word hword).1, fun line hline => ?_⟩
  refine words_join fun word hword => hplain word ?_
  rw [← List.nil_append t.words, ← flatten_fill width]
  exact List.mem_flatten_of_mem hline hword

/-- The lines of a wrapped text are known by their words. -/
theorem map_words_wrap (width : Int) (t : Text) :
    (t.wrap width).map words = fill width [] t.words := by
  obtain ⟨hfilled, hline⟩ := words_filled width t
  rw [wrap, hfilled, List.map_map, List.map_map]
  calc (fill width [] t.words).map _
    _ = (fill width [] t.words).map id :=
      List.map_congr_left fun line hmem => by
        rw [Function.comp_apply, Function.comp_apply, words_padRight, hline line hmem, id]
    _ = fill width [] t.words := List.map_id _

theorem wrap_ne_nil (width : Int) (t : Text) : t.wrap width ≠ [] := by
  intro h
  have hwords := map_words_wrap width t
  rw [h] at hwords
  exact fill_ne_nil width [] t.words hwords.symm

theorem length_of_mem_wrap {l : Text} (h : l ∈ t.wrap width) :
    l.length = longest (fillLines width [] t.words) := by
  obtain ⟨line, hline, rfl⟩ := List.mem_map.mp h
  exact length_padRight (length_le_longest hline)

@[simp] theorem longest_wrap (width : Int) (t : Text) :
    longest (t.wrap width) = longest (fillLines width [] t.words) := by
  obtain ⟨l, hl, hlength⟩ := exists_length_eq_longest (wrap_ne_nil width t)
  rw [← hlength, length_of_mem_wrap hl]

/-- A line of a wrapped text is its words with spaces up to the length of the longest line. -/
theorem eq_padRight_of_mem_wrap {l : Text} (h : l ∈ t.wrap width) :
    l = padRight (longest (t.wrap width)) (join " " l.words) := by
  obtain ⟨hfilled, hwords⟩ := words_filled width t
  rw [wrap, hfilled, List.map_map] at h
  obtain ⟨line, hline, rfl⟩ := List.mem_map.mp h
  rw [longest_wrap, hfilled, Function.comp_apply, words_padRight, hwords line hline]

/-- Not every line of a wrapped text has spaces at its end. -/
theorem exists_eq_join_of_wrap (width : Int) (t : Text) :
    ∃ l ∈ t.wrap width, l = join " " l.words := by
  obtain ⟨hfilled, hwords⟩ := words_filled width t
  have hne : fillLines width [] t.words ≠ [] := by
    rw [hfilled]
    exact fun h => fill_ne_nil width [] t.words (List.map_eq_nil_iff.mp h)
  obtain ⟨l, hl, hlength⟩ := exists_length_eq_longest hne
  have hpad : padRight (longest (fillLines width [] t.words)) l = l := by
    rw [padRight, hlength, Nat.sub_self, List.replicate_zero, List.append_nil]
  refine ⟨l, List.mem_map.mpr ⟨l, hl, hpad⟩, ?_⟩
  rw [hfilled] at hl
  obtain ⟨line, hline, rfl⟩ := List.mem_map.mp hl
  rw [hwords line hline]

end VirtualShell.Text
