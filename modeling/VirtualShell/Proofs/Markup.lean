import Mathlib.Data.List.Infix
import VirtualShell.Markup
import VirtualShell.Proofs.Text
/-
  Plain text, and what stripping leaves.

  Stripping takes out every control sequence that stands in a text, in one pass. No such sequence
  begins inside another, so each of them goes whole and none is missed. What it does not do is look
  at the text again: where a sequence stood inside another one, between its escape character and its
  letter, the pieces of the outer one come together when the inner one goes. `IsInterrupted` is the
  form of such a text, and `isPlain_strip_iff` says that it is the only way in which stripped text
  can still hold a control sequence.
-/

namespace VirtualShell.Markup

/-- A control sequence: an escape character, an opening bracket, any number of digits and
semicolons, and one ASCII letter. -/
def IsSequence (t : Text) : Prop :=
  ∃ (parameters : Text) (letter : CodePoint), (∀ c ∈ parameters, isParameter c = true) ∧
    letter.isAsciiLetter = true ∧
    t = escape :: CodePoint.ofChar '[' :: (parameters ++ [letter])

/-- Text without a control sequence anywhere in it. -/
def IsPlain (t : Text) : Prop := ∀ u, u <:+: t → ¬IsSequence u

/-- The second text is the first with control sequences put in, each in front of one of its code
points. -/
inductive IsWoven : Text → Text → Prop
  | nil : IsWoven [] []
  | keep (c : CodePoint) {t u : Text} : IsWoven t u → IsWoven (c :: t) (c :: u)
  | putIn {s t u : Text} : IsSequence s → t ≠ [] → IsWoven t u → IsWoven t (s ++ u)

/-- A control sequence into which others have been put, behind its escape character and before its
letter. -/
def IsInterrupted (t : Text) : Prop :=
  ∃ rest woven, IsSequence (escape :: rest) ∧ IsWoven rest woven ∧ woven ≠ rest ∧
    t = escape :: woven

/-- Text without an interrupted control sequence anywhere in it. -/
def IsUninterrupted (t : Text) : Prop := ∀ u, u <:+: t → ¬IsInterrupted u

/-! ## Control sequences -/

/-- What lacks a code point that a text goes on with does not reach as far as that. -/
theorem prefix_of_not_mem {c : CodePoint} {t before after : Text} (ht : c ∉ t)
    (h : t <+: before ++ c :: after) : t <+: before := by
  obtain ⟨rest, hrest⟩ := h
  rcases List.append_eq_append_iff.mp hrest with ⟨more, hbefore, -⟩ | ⟨more, rfl, hmore⟩
  · exact ⟨more, hbefore.symm⟩
  · cases more with
    | nil => simp
    | cons d more =>
      cases hmore
      exact absurd (by simp) ht

theorem not_isAsciiLetter_of_isParameter {c : CodePoint} (h : isParameter c = true) :
    c.isAsciiLetter = false := by
  simp only [isParameter, CodePoint.isAsciiDigit, Bool.or_eq_true, Bool.and_eq_true,
    decide_eq_true_eq] at h
  simp only [CodePoint.isAsciiLetter, Bool.or_eq_false_iff, Bool.and_eq_false_iff,
    decide_eq_false_iff_not]
  rcases h with h | rfl
  · omega
  · decide

theorem ne_escape_of_isParameter {c : CodePoint} (h : isParameter c = true) : c ≠ escape := by
  rintro rfl
  cases h

theorem ne_escape_of_isAsciiLetter {c : CodePoint} (h : c.isAsciiLetter = true) : c ≠ escape := by
  rintro rfl
  cases h

/-- The escape character of a control sequence is its only one. -/
theorem IsSequence.eq_escape_cons {s : Text} (h : IsSequence s) :
    ∃ rest, s = escape :: rest ∧ rest ≠ [] ∧ escape ∉ rest := by
  obtain ⟨parameters, letter, hparameters, hletter, rfl⟩ := h
  refine ⟨_, rfl, List.cons_ne_nil _ _, ?_⟩
  simp only [List.mem_cons, List.mem_append, List.not_mem_nil, or_false, not_or]
  exact ⟨by decide, fun hm => ne_escape_of_isParameter (hparameters _ hm) rfl,
    (ne_escape_of_isAsciiLetter hletter).symm⟩

theorem afterParameters_append {parameters : Text} (h : ∀ c ∈ parameters, isParameter c = true)
    (t : Text) : afterParameters (parameters ++ t) = afterParameters t := by
  induction parameters with
  | nil => rfl
  | cons c rest ih =>
    rw [List.forall_mem_cons] at h
    rw [List.cons_append, afterParameters, if_pos h.1, ih h.2]

theorem exists_of_afterParameters {t rest : Text} (h : afterParameters t = some rest) :
    ∃ (parameters : Text) (letter : CodePoint), (∀ c ∈ parameters, isParameter c = true) ∧
      letter.isAsciiLetter = true ∧ t = parameters ++ letter :: rest := by
  induction t with
  | nil => cases h
  | cons c t ih =>
    rw [afterParameters] at h
    split at h
    · rename_i hc
      obtain ⟨parameters, letter, hparameters, hletter, rfl⟩ := ih h
      exact ⟨c :: parameters, letter, List.forall_mem_cons.mpr ⟨hc, hparameters⟩, hletter, rfl⟩
    · split at h
      · rename_i hletter
        cases h
        exact ⟨[], c, List.forall_mem_nil _, hletter, rfl⟩
      · cases h

/-- A text starts with a control sequence just if there is something after it. -/
theorem afterSequence_eq_some_iff {t rest : Text} :
    afterSequence t = some rest ↔ ∃ s, IsSequence s ∧ t = s ++ rest := by
  constructor
  · intro h
    match t, h with
    | c :: d :: t, h =>
      rw [afterSequence] at h
      split at h
      · rename_i hhead
        rw [Bool.and_eq_true, decide_eq_true_eq, decide_eq_true_eq] at hhead
        obtain ⟨rfl, rfl⟩ := hhead
        obtain ⟨parameters, letter, hparameters, hletter, rfl⟩ := exists_of_afterParameters h
        exact ⟨_, ⟨parameters, letter, hparameters, hletter, rfl⟩, by simp⟩
      · cases h
  · rintro ⟨s, ⟨parameters, letter, hparameters, hletter, rfl⟩, rfl⟩
    have hnot : isParameter letter = false := by
      by_contra hp
      rw [Bool.not_eq_false] at hp
      rw [not_isAsciiLetter_of_isParameter hp] at hletter
      cases hletter
    rw [List.cons_append, List.cons_append, afterSequence, if_pos (by simp), List.append_assoc,
      afterParameters_append hparameters, List.singleton_append, afterParameters, hnot,
      if_neg (by simp), if_pos hletter]

theorem afterSequence_eq_none_iff {t : Text} :
    afterSequence t = none ↔ ∀ s, s <+: t → ¬IsSequence s := by
  rw [Option.eq_none_iff_forall_ne_some]
  constructor
  · rintro h s ⟨rest, rfl⟩ hs
    exact h rest (afterSequence_eq_some_iff.mpr ⟨s, hs, rfl⟩)
  · intro h rest hrest
    obtain ⟨s, hs, rfl⟩ := afterSequence_eq_some_iff.mp hrest
    exact h s (List.prefix_append s rest) hs

/-- No control sequence is a proper beginning of another. -/
theorem IsSequence.eq_of_append {s s' t : Text} (h : IsSequence s) (h' : IsSequence s')
    (he : s' = s ++ t) : t = [] := by
  have hwhole : afterSequence s' = some [] := afterSequence_eq_some_iff.mpr ⟨s', h', by simp⟩
  have hpart : afterSequence s' = some t := afterSequence_eq_some_iff.mpr ⟨s, h, he⟩
  exact Option.some.inj (hpart.symm.trans hwhole)

/-! ## Stripping -/

theorem strip_nil : strip [] = [] := by rw [strip]

theorem strip_sequence_append {s : Text} (h : IsSequence s) (t : Text) :
    strip (s ++ t) = strip t := by
  have hafter : afterSequence (s ++ t) = some t := afterSequence_eq_some_iff.mpr ⟨s, h, rfl⟩
  obtain ⟨rest, rfl, -, -⟩ := h.eq_escape_cons
  rw [List.cons_append] at hafter ⊢
  rw [strip]
  split
  · rename_i after hsome
    rw [hafter] at hsome
    cases hsome
    rfl
  · rename_i hnone
    rw [hafter] at hnone
    cases hnone

theorem strip_cons {c : CodePoint} {t : Text} (h : afterSequence (c :: t) = none) :
    strip (c :: t) = c :: strip t := by
  rw [strip]
  split
  · rename_i hsome
    rw [h] at hsome
    cases hsome
  · rfl

theorem strip_cons_of_ne {c : CodePoint} (h : c ≠ escape) (t : Text) :
    strip (c :: t) = c :: strip t := by
  refine strip_cons ?_
  cases t with
  | nil => rfl
  | cons d t => rw [afterSequence, decide_eq_false h, Bool.false_and, if_neg (by simp)]

/-- Nothing gets longer by stripping, and what holds a control sequence gets shorter. -/
theorem length_strip_le (t : Text) : (strip t).length ≤ t.length := by
  fun_induction strip t with
  | case1 => exact Nat.le_refl 0
  | case2 c rest after h hlength ih => exact Nat.le_of_lt (Nat.lt_of_le_of_lt ih hlength)
  | case3 c rest h ih => exact Nat.succ_le_succ ih

/-- Plain text is what stripping leaves as it is. -/
theorem isPlain_iff_strip_eq {t : Text} : IsPlain t ↔ strip t = t := by
  induction t with
  | nil =>
    refine ⟨fun _ => strip_nil, fun _ u hu hs => ?_⟩
    obtain ⟨rest, rfl, -, -⟩ := hs.eq_escape_cons
    cases List.infix_nil.mp hu
  | cons c t ih =>
    cases hafter : afterSequence (c :: t) with
    | some after =>
      obtain ⟨s, hs, ht⟩ := afterSequence_eq_some_iff.mp hafter
      rw [ht, strip_sequence_append hs]
      refine ⟨fun h => absurd hs (h s (List.prefix_append s after).isInfix), fun h => ?_⟩
      -- the text without the sequence is shorter
      have hshort := length_strip_le after
      have hlength := length_afterSequence hafter
      rw [h, ← ht] at hshort
      omega
    | none =>
      have hnone := afterSequence_eq_none_iff.mp hafter
      rw [strip_cons hafter]
      constructor
      · intro h
        rw [ih.mp fun u hu => h u (List.infix_cons hu)]
      · intro h u hu hs
        rcases List.infix_cons_iff.mp hu with hprefix | hinfix
        · exact hnone u hprefix hs
        · exact ih.mpr (List.cons.inj h).2 u hinfix hs

/-- What stands before a code point that no control sequence goes on with is stripped on its own. -/
theorem strip_append_cons {c : CodePoint} (hc : ∀ tail, IsSequence (escape :: tail) → c ∉ tail)
    (before after : Text) :
    strip (before ++ c :: after) = strip before ++ strip (c :: after) := by
  fun_induction strip before with
  | case1 => rfl
  | case2 d rest next h _ ih =>
    obtain ⟨s, hs, ht⟩ := afterSequence_eq_some_iff.mp h
    rw [ht, List.append_assoc, strip_sequence_append hs, ih]
  | case3 d rest h ih =>
    -- a sequence from here on would have to reach over the code point
    have hnone : afterSequence (d :: rest ++ c :: after) = none := by
      refine afterSequence_eq_none_iff.mpr fun s hprefix hs => ?_
      obtain ⟨tail, rfl, -, -⟩ := hs.eq_escape_cons
      obtain ⟨rfl, htail⟩ := List.cons_prefix_cons.mp hprefix
      exact afterSequence_eq_none_iff.mp h _
        (List.cons_prefix_cons.mpr ⟨rfl, prefix_of_not_mem (hc tail hs) htail⟩) hs
    rw [List.cons_append] at hnone ⊢
    rw [strip_cons hnone, ih, List.cons_append]

/-- What stands before an escape character is stripped on its own. -/
theorem strip_append_escape (before after : Text) :
    strip (before ++ escape :: after) = strip before ++ strip (escape :: after) := by
  refine strip_append_cons (fun tail hs => ?_) before after
  obtain ⟨rest, hrest, -, hescape⟩ := hs.eq_escape_cons
  cases hrest
  exact hescape

/-- What stands on either side of a control sequence is stripped on its own. -/
theorem strip_append_sequence {s : Text} (hs : IsSequence s) (before after : Text) :
    strip (before ++ s ++ after) = strip before ++ strip after := by
  obtain ⟨tail, rfl, -, -⟩ := hs.eq_escape_cons
  rw [List.append_assoc, List.cons_append, strip_append_escape, ← List.cons_append,
    strip_sequence_append hs]

/-- What stands before any escape character is left as it is. -/
theorem strip_append_of_not_mem {before : Text} (h : escape ∉ before) (after : Text) :
    strip (before ++ after) = before ++ strip after := by
  induction before with
  | nil => rfl
  | cons c rest ih =>
    rw [List.mem_cons, not_or] at h
    rw [List.cons_append, strip_cons_of_ne (Ne.symm h.1), ih h.2, List.cons_append]

/-- Text without an escape character is left as it is. -/
theorem strip_of_not_mem {t : Text} (h : escape ∉ t) : strip t = t := by
  have hwhole := strip_append_of_not_mem h []
  rwa [List.append_nil, strip_nil, List.append_nil] at hwhole

/-! ## Colours and lines -/

theorem isSequence_colours : IsSequence red ∧ IsSequence blue ∧ IsSequence marked ∧
    IsSequence reset := by
  refine ⟨⟨"31", CodePoint.ofChar 'm', ?_, rfl, rfl⟩, ⟨"34", CodePoint.ofChar 'm', ?_, rfl, rfl⟩,
    ⟨"30;43", CodePoint.ofChar 'm', ?_, rfl, rfl⟩, ⟨"0", CodePoint.ofChar 'm', ?_, rfl, rfl⟩⟩ <;>
  decide

/-- Text between two control sequences is stripped as if it stood alone. -/
theorem strip_wrapped {first last : Text} (hf : IsSequence first) (hl : IsSequence last)
    (t : Text) : strip (first ++ t ++ last) = strip t := by
  have hend := strip_append_sequence hl (first ++ t) []
  rw [List.append_nil, strip_nil, List.append_nil] at hend
  rw [hend, strip_sequence_append hf]

theorem strip_error (t : Text) : strip (error t) = strip t :=
  strip_wrapped isSequence_colours.1 isSequence_colours.2.2.2 t

theorem strip_directory (t : Text) : strip (directory t) = strip t :=
  strip_wrapped isSequence_colours.2.1 isSequence_colours.2.2.2 t

theorem strip_highlight (t : Text) : strip (highlight t) = strip t :=
  strip_wrapped isSequence_colours.2.2.1 isSequence_colours.2.2.2 t

theorem not_mem_tail_of_isSequence {tail : Text} (hs : IsSequence (escape :: tail)) :
    CodePoint.ofChar '\n' ∉ tail := by
  obtain ⟨parameters, letter, hparameters, hletter, htail⟩ := hs
  cases htail
  simp only [List.mem_cons, List.mem_append, List.not_mem_nil, or_false, not_or]
  refine ⟨by decide, fun hm => ?_, ?_⟩
  · exact absurd (hparameters _ hm) (by decide)
  · rintro rfl
    cases hletter

/-- Lines are stripped one by one. -/
theorem strip_join_lines (lines : List Text) :
    strip (Text.join "\n" lines) = Text.join "\n" (lines.map strip) := by
  induction lines with
  | nil => exact strip_nil
  | cons line rest ih =>
    cases rest with
    | nil => simp
    | cons next more =>
      rw [List.map_cons, List.map_cons, Text.join_cons_cons, Text.join_cons_cons,
        ← List.map_cons, ← ih, List.append_assoc, List.append_assoc]
      have hfeed : (Text.ofString "\n") = [CodePoint.ofChar '\n'] := rfl
      rw [hfeed, List.singleton_append, List.singleton_append,
        strip_append_cons (fun _ => not_mem_tail_of_isSequence), strip_cons_of_ne (by decide)]

/-! ## What is woven into a text -/

/-- What is put in goes, and the text comes back. -/
theorem IsWoven.strip_append {t u : Text} (h : IsWoven t u) (ht : escape ∉ t) (rest : Text) :
    strip (u ++ rest) = t ++ strip rest := by
  induction h with
  | nil => rfl
  | keep c _ ih =>
    rw [List.mem_cons, not_or] at ht
    rw [List.cons_append, strip_cons_of_ne (Ne.symm ht.1), ih ht.2, List.cons_append]
  | putIn hs _ _ ih => rw [List.append_assoc, strip_sequence_append hs, ih ht]

/-- Where anything was put in, an escape character comes before the end of the text. -/
theorem IsWoven.exists_escape {t u : Text} (h : IsWoven t u) (hne : u ≠ t) :
    ∃ before after rest, u = before ++ escape :: after ∧ t = before ++ rest ∧ rest ≠ [] := by
  induction h with
  | nil => exact absurd rfl hne
  | keep c _ ih =>
    obtain ⟨before, after, rest, rfl, rfl, hrest⟩ := ih fun e => hne (by rw [e])
    exact ⟨c :: before, after, rest, rfl, rfl, hrest⟩
  | @putIn s t u hs ht _ _ =>
    obtain ⟨tail, rfl, -, -⟩ := hs.eq_escape_cons
    exact ⟨[], tail ++ u, t, rfl, rfl, ht⟩

/-- Every beginning of stripped text is a beginning of the text, but for what is woven in. -/
theorem exists_woven_of_prefix_strip (t : Text) :
    ∀ {r : Text}, r <+: strip t → ∃ u, u <+: t ∧ IsWoven r u := by
  fun_induction strip t with
  | case1 =>
    intro r h
    rw [List.prefix_nil.mp h]
    exact ⟨[], List.nil_prefix, .nil⟩
  | case2 c rest after h _ ih =>
    intro r hr
    obtain ⟨s, hs, ht⟩ := afterSequence_eq_some_iff.mp h
    obtain ⟨u, hu, hwoven⟩ := ih hr
    by_cases hempty : r = []
    · rw [hempty]
      exact ⟨[], List.nil_prefix, .nil⟩
    · rw [ht]
      exact ⟨s ++ u, List.prefix_append_right_inj s |>.mpr hu, .putIn hs hempty hwoven⟩
  | case3 c rest _ ih =>
    intro r hr
    cases r with
    | nil => exact ⟨[], List.nil_prefix, .nil⟩
    | cons d r =>
      obtain ⟨rfl, htail⟩ := List.cons_prefix_cons.mp hr
      obtain ⟨u, hu, hwoven⟩ := ih htail
      exact ⟨d :: u, List.cons_prefix_cons.mpr ⟨rfl, hu⟩, .keep d hwoven⟩

/-! ## When stripped text is plain -/

/-- The pieces of an interrupted sequence are left, and make up a sequence. -/
theorem IsInterrupted.exists_strip {u : Text} (h : IsInterrupted u) :
    ∃ s, IsSequence s ∧ ∀ before after, strip (before ++ u ++ after) =
      strip before ++ s ++ strip after := by
  obtain ⟨rest, woven, hs, hwoven, hne, rfl⟩ := h
  obtain ⟨tail, htail, -, hescape⟩ := hs.eq_escape_cons
  cases htail
  refine ⟨_, hs, fun before after => ?_⟩
  -- another escape character comes first, so nothing is taken out at the first one
  have hnone : afterSequence (escape :: (woven ++ after)) = none := by
    refine afterSequence_eq_none_iff.mpr fun s' hprefix hs' => ?_
    obtain ⟨tail, rfl, -, hescape'⟩ := hs'.eq_escape_cons
    obtain ⟨front, back, left, rfl, rfl, hleft⟩ := hwoven.exists_escape hne
    rw [List.append_assoc, List.cons_append] at hprefix
    obtain ⟨more, rfl⟩ := prefix_of_not_mem hescape' (List.cons_prefix_cons.mp hprefix).2
    refine absurd (hs'.eq_of_append hs (t := more ++ left) (by simp)) ?_
    simp [hleft]
  rw [List.append_assoc, List.cons_append, strip_append_escape, strip_cons hnone,
    hwoven.strip_append hescape, List.append_assoc, List.cons_append]

/-- Stripped text is plain just if no control sequence was interrupted by others. -/
theorem isPlain_strip_iff {t : Text} : IsPlain (strip t) ↔ IsUninterrupted t := by
  constructor
  · rintro h u ⟨before, after, rfl⟩ hu
    obtain ⟨s, hs, hstrip⟩ := hu.exists_strip
    exact h s ⟨_, _, (hstrip before after).symm⟩ hs
  · intro h
    fun_induction strip t with
    | case1 => exact isPlain_iff_strip_eq.mpr strip_nil
    | case2 c rest after hafter _ ih =>
      obtain ⟨s, hs, ht⟩ := afterSequence_eq_some_iff.mp hafter
      exact ih fun u hu => h u (ht ▸ hu.trans (List.suffix_append s after).isInfix)
    | case3 c rest hnone ih =>
      intro s hs hsequence
      rcases List.infix_cons_iff.mp hs with hprefix | hinfix
      · -- a sequence that begins here is in the text only with others put in
        obtain ⟨tail, rfl, -, -⟩ := hsequence.eq_escape_cons
        obtain ⟨rfl, htail⟩ := List.cons_prefix_cons.mp hprefix
        obtain ⟨u, hu, hwoven⟩ := exists_woven_of_prefix_strip rest htail
        have hbegins : escape :: u <+: escape :: rest := List.cons_prefix_cons.mpr ⟨rfl, hu⟩
        refine h _ hbegins.isInfix ⟨tail, u, hsequence, hwoven, ?_, rfl⟩
        rintro rfl
        exact afterSequence_eq_none_iff.mp hnone _ hbegins hsequence
      · exact ih (fun u hu => h u (List.infix_cons hu)) s hinfix hsequence

/-- A second pass finds nothing just if no control sequence was interrupted. -/
theorem strip_strip_eq_iff {t : Text} : strip (strip t) = strip t ↔ IsUninterrupted t :=
  isPlain_iff_strip_eq.symm.trans isPlain_strip_iff

instance : DecidablePred IsPlain := fun _ => decidable_of_iff _ isPlain_iff_strip_eq.symm

instance : DecidablePred IsUninterrupted := fun _ => decidable_of_iff _ isPlain_strip_iff

end VirtualShell.Markup
