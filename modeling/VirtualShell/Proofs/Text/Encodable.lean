import VirtualShell.Bubble
import VirtualShell.Fault
import VirtualShell.Markup
import VirtualShell.Name
import VirtualShell.Path
import VirtualShell.Proofs.Text
import VirtualShell.Proofs.Text.Case
/-
  Text without surrogates.

  Such text has an encoding. It is closed under all that is done with text in the shell: taking it
  apart and putting it together, other case, numbers, quotes, paths and names. A text written as
  characters is always of that kind, since no character is a surrogate.
-/

namespace VirtualShell

/-- No code point of the text is a surrogate. -/
def Text.IsEncodable (t : Text) : Prop := ∀ c ∈ t, c.isSurrogate = false

instance : DecidablePred Text.IsEncodable := fun t =>
  inferInstanceAs (Decidable (∀ c ∈ t, c.isSurrogate = false))

theorem CodePoint.isSurrogate_ofChar (c : Char) : (ofChar c).isSurrogate = false := by
  have h := c.valid
  unfold UInt32.isValidChar Nat.isValidChar at h
  rw [isSurrogate, Bool.and_eq_false_iff, decide_eq_false_iff_not, decide_eq_false_iff_not]
  show ¬ 0xD800 ≤ c.val.toNat ∨ ¬ c.val.toNat ≤ 0xDFFF
  omega

theorem CodePoint.isSurrogate_ofNat {n : Nat} (h : n < 0xD800 ∨ 0xDFFF < n) :
    (ofNat n).isSurrogate = false := by
  rw [ofNat]
  split
  · rw [isSurrogate, Bool.and_eq_false_iff, decide_eq_false_iff_not, decide_eq_false_iff_not]
    show ¬ 0xD800 ≤ n ∨ ¬ n ≤ 0xDFFF
    omega
  · rfl

namespace Text

variable {s t : Text} {ts : List Text}

/-! ## Taking apart -/

theorem IsEncodable.of_subset (h : t.IsEncodable) (hs : s ⊆ t) : s.IsEncodable :=
  fun c hc => h c (hs hc)

theorem any_isSurrogate_eq_false (h : t.IsEncodable) : t.any CodePoint.isSurrogate = false := by
  rw [List.any_eq_false]
  intro c hc
  simp [h c hc]

theorem IsEncodable.take (h : t.IsEncodable) (n : Nat) : IsEncodable (List.take n t) :=
  h.of_subset (List.take_subset n t)

theorem IsEncodable.drop (h : t.IsEncodable) (n : Nat) : IsEncodable (List.drop n t) :=
  h.of_subset (List.drop_subset n t)

theorem isEncodable_headD {default : Text} (h : ∀ t ∈ ts, t.IsEncodable)
    (hd : default.IsEncodable) : (ts.headD default).IsEncodable := by
  cases ts with
  | nil => exact hd
  | cons t rest => exact h t List.mem_cons_self

theorem IsEncodable.of_mem_pieces {separates : CodePoint → Bool} {piece : Text}
    (h : t.IsEncodable) (hp : piece ∈ pieces separates t) : piece.IsEncodable :=
  h.of_subset (subset_of_mem_pieces hp)

theorem IsEncodable.of_mem_words {word : Text} (h : t.IsEncodable) (hw : word ∈ t.words) :
    word.IsEncodable :=
  h.of_mem_pieces (List.mem_filter.mp hw).1

theorem IsEncodable.trim (h : t.IsEncodable) : t.trim.IsEncodable := by
  refine h.of_subset fun c hc => ?_
  have hright := (List.dropWhile_sublist _).subset (List.mem_reverse.mp hc)
  exact (List.dropWhile_sublist _).subset (List.mem_reverse.mp hright)

theorem IsEncodable.trimRight (h : t.IsEncodable) : t.trimRight.IsEncodable :=
  h.of_subset fun _ hc =>
    List.mem_reverse.mp ((List.dropWhile_sublist _).subset (List.mem_reverse.mp hc))

theorem subset_of_cut {separator : CodePoint} {p : Text × Text} (h : cut separator t = some p) :
    p.1 ⊆ t ∧ p.2 ⊆ t := by
  induction t generalizing p with
  | nil => cases h
  | cons c rest ih =>
    rw [cut] at h
    split at h
    · cases h
      exact ⟨List.nil_subset _, List.subset_cons_self _ _⟩
    · obtain ⟨q, hq, rfl⟩ := Option.map_eq_some_iff.mp h
      exact ⟨List.cons_subset_cons c (ih hq).1, List.subset_cons_of_subset c (ih hq).2⟩

theorem subset_of_cutLast {separator : CodePoint} {p : Text × Text}
    (h : cutLast separator t = some p) : p.1 ⊆ t ∧ p.2 ⊆ t := by
  obtain ⟨before, after⟩ := p
  obtain ⟨rfl, -⟩ := eq_of_cutLast h
  exact ⟨List.subset_append_left _ _, fun c hc => by simp [hc]⟩

/-! ## Putting together -/

@[simp] theorem isEncodable_nil : IsEncodable [] := fun _ hc => nomatch hc

@[simp] theorem isEncodable_cons {c : CodePoint} :
    IsEncodable (c :: t) ↔ c.isSurrogate = false ∧ t.IsEncodable :=
  List.forall_mem_cons

@[simp] theorem isEncodable_append : IsEncodable (s ++ t) ↔ s.IsEncodable ∧ t.IsEncodable :=
  List.forall_mem_append

theorem isEncodable_map_ofChar (cs : List Char) : IsEncodable (cs.map CodePoint.ofChar) := by
  intro c hc
  obtain ⟨d, -, rfl⟩ := List.mem_map.mp hc
  exact CodePoint.isSurrogate_ofChar d

@[simp] theorem isEncodable_ofString (s : String) : (ofString s).IsEncodable :=
  isEncodable_map_ofChar _

@[simp] theorem isEncodable_ofNat (n : Nat) : (ofNat n).IsEncodable := isEncodable_map_ofChar _

@[simp] theorem isEncodable_ofInt (n : Int) : (ofInt n).IsEncodable := by
  cases n with
  | ofNat n => exact isEncodable_ofNat n
  | negSucc n =>
    exact isEncodable_cons.mpr ⟨CodePoint.isSurrogate_ofChar _, isEncodable_ofNat _⟩

theorem isEncodable_replicate_ofChar (n : Nat) (c : Char) :
    IsEncodable (List.replicate n (CodePoint.ofChar c)) := by
  rw [← List.map_replicate]
  exact isEncodable_map_ofChar _

@[simp] theorem isEncodable_hex (width n : Nat) : (hex width n).IsEncodable :=
  isEncodable_append.mpr ⟨isEncodable_replicate_ofChar _ _, isEncodable_map_ofChar _⟩

theorem IsEncodable.join (hs : s.IsEncodable) (h : ∀ t ∈ ts, t.IsEncodable) :
    (Text.join s ts).IsEncodable := by
  induction ts with
  | nil => exact isEncodable_nil
  | cons t rest ih =>
    have hrest := ih fun u hu => h u (List.mem_cons_of_mem _ hu)
    cases rest with
    | nil =>
      rw [join_singleton]
      exact h t List.mem_cons_self
    | cons u more =>
      rw [join_cons_cons]
      simp [h t List.mem_cons_self, hs, hrest]

theorem IsEncodable.padRight (h : t.IsEncodable) (width : Nat) : (padRight width t).IsEncodable :=
  isEncodable_append.mpr ⟨h, isEncodable_replicate_ofChar _ _⟩

theorem isEncodable_getD (h : ∀ t ∈ ts, t.IsEncodable) (n : Nat) : (ts.getD n []).IsEncodable := by
  rw [List.getD_eq_getElem?_getD]
  cases hn : ts[n]? with
  | none => exact isEncodable_nil
  | some t => exact h t (List.mem_of_getElem? hn)

/-! ## Wrapping -/

theorem isEncodable_of_mem_fillLines {width : Int} (h : ∀ word ∈ ts, word.IsEncodable) :
    ∀ {line : Text}, line.IsEncodable → ∀ l ∈ fillLines width line ts, l.IsEncodable := by
  induction ts with
  | nil =>
    intro line hline l hl
    rw [fillLines, List.mem_singleton] at hl
    exact hl ▸ hline
  | cons word rest ih =>
    intro line hline l hl
    have hword := h word List.mem_cons_self
    have ih := @ih fun w hw => h w (List.mem_cons_of_mem _ hw)
    rw [fillLines] at hl
    split at hl
    · exact ih hword l hl
    · split at hl
      · rcases List.mem_cons.mp hl with rfl | hl
        · exact hline
        · exact ih hword l hl
      · exact ih (by simp [hline, hword]) l hl

theorem IsEncodable.of_mem_wrap {width : Int} {line : Text} (h : t.IsEncodable)
    (hl : line ∈ t.wrap width) : line.IsEncodable := by
  obtain ⟨l, hfilled, rfl⟩ := List.mem_map.mp hl
  have hwords (word : Text) (hw : word ∈ t.words) := h.of_mem_words hw
  exact (isEncodable_of_mem_fillLines hwords isEncodable_nil l hfilled).padRight _

/-! ## Case -/

/-- No stretch of the table ends among the surrogates. -/
theorem target_of_mem_lowerStretches : ∀ s ∈ lowerStretches,
    s.target + (s.last - s.first) < 0xD800 ∨ 0xDFFF < s.target := by decide +kernel

theorem isSurrogate_moveBy {stretches : List CaseStretch}
    (h : ∀ s ∈ stretches, s.target + (s.last - s.first) < 0xD800 ∨ 0xDFFF < s.target)
    {c : CodePoint} (hc : c.isSurrogate = false) : (c.moveBy stretches).isSurrogate = false := by
  rcases CodePoint.moveBy_cases stretches c with hmove | ⟨s, hs, hfirst, hlast, hmove⟩
  · rw [hmove]
    exact hc
  · have hend := h s hs
    rw [hmove]
    exact CodePoint.isSurrogate_ofNat (by omega)

theorem isSurrogate_lower {c : CodePoint} (hc : c.isSurrogate = false) :
    c.lower.isSurrogate = false := by
  rw [CodePoint.lower]
  split
  · rfl
  · exact isSurrogate_moveBy target_of_mem_lowerStretches hc

theorem isEncodable_lowerAfter (h : t.IsEncodable) :
    ∀ before : Text, (lowerAfter before t).IsEncodable := by
  induction t with
  | nil => exact fun _ => isEncodable_nil
  | cons c rest ih =>
    intro before
    obtain ⟨hc, hrest⟩ := isEncodable_cons.mp h
    rw [lowerAfter]
    refine isEncodable_append.mpr ⟨?_, ih hrest _⟩
    split
    · decide
    · split
      · split <;> decide
      · simp [isSurrogate_lower hc]

theorem IsEncodable.lower (h : t.IsEncodable) : t.lower.IsEncodable := isEncodable_lowerAfter h []

/-! ## Quotes -/

theorem isEncodable_quoted_codePoint {quote c : CodePoint} (hc : c.isSurrogate = false) :
    (CodePoint.quoted quote c).IsEncodable := by
  unfold CodePoint.quoted
  repeat' split
  all_goals simp [hc, CodePoint.isSurrogate_ofChar]

theorem IsEncodable.quoted (h : t.IsEncodable) : t.quoted.IsEncodable := by
  have hquote : t.quoteFor.isSurrogate = false := by
    rw [quoteFor]
    split <;> rfl
  -- a quotation mark, what each code point becomes, the mark again
  refine isEncodable_cons.mpr ⟨hquote, isEncodable_append.mpr ⟨fun c hc => ?_, by simp [hquote]⟩⟩
  obtain ⟨d, hd, hc⟩ := List.mem_flatMap.mp hc
  exact isEncodable_quoted_codePoint (h d hd) c hc

/-! ## Colours -/

theorem subset_of_afterParameters {rest : Text} (h : Markup.afterParameters t = some rest) :
    rest ⊆ t := by
  induction t with
  | nil => cases h
  | cons c more ih =>
    rw [Markup.afterParameters] at h
    split at h
    · exact List.subset_cons_of_subset c (ih h)
    · split at h
      · cases h
        exact List.subset_cons_self c _
      · cases h

theorem subset_of_afterSequence {rest : Text} (h : Markup.afterSequence t = some rest) :
    rest ⊆ t := by
  match t, h with
  | c :: d :: more, h =>
    rw [Markup.afterSequence] at h
    split at h
    · have hrest := subset_of_afterParameters h
      exact List.subset_cons_of_subset c (List.subset_cons_of_subset d hrest)
    · cases h

theorem strip_subset (t : Text) : Markup.strip t ⊆ t := by
  fun_induction Markup.strip t with
  | case1 => exact List.nil_subset _
  | case2 c rest after h _ ih => exact List.Subset.trans ih (subset_of_afterSequence h)
  | case3 c rest h ih => exact List.cons_subset_cons c ih

theorem IsEncodable.strip (h : t.IsEncodable) : (Markup.strip t).IsEncodable :=
  h.of_subset (strip_subset t)

@[simp] theorem isEncodable_error : (Markup.error t).IsEncodable ↔ t.IsEncodable := by
  simp [Markup.error, Markup.red, Markup.reset]

@[simp] theorem isEncodable_directory : (Markup.directory t).IsEncodable ↔ t.IsEncodable := by
  simp [Markup.directory, Markup.blue, Markup.reset]

@[simp] theorem isEncodable_highlight : (Markup.highlight t).IsEncodable ↔ t.IsEncodable := by
  simp [Markup.highlight, Markup.marked, Markup.reset]

end Text

/-! ## Paths and names -/

namespace Path

variable {path cwd parent name : Text}

theorem isEncodable_of_mem_segments {segment : Text} (h : path.IsEncodable)
    (hs : segment ∈ segments path) : segment.IsEncodable :=
  h.of_mem_pieces (List.mem_filter.mp hs).1

theorem isEncodable_of_mem_foldl_step {parts stack : List Text}
    (hp : ∀ t ∈ parts, t.IsEncodable) (hs : ∀ t ∈ stack, t.IsEncodable) :
    ∀ t ∈ parts.foldl step stack, t.IsEncodable := by
  induction parts generalizing stack with
  | nil => exact hs
  | cons part rest ih =>
    refine ih (fun t ht => hp t (List.mem_cons_of_mem _ ht)) ?_
    intro t ht
    rw [step] at ht
    split at ht
    · exact hs t ht
    · split at ht
      · exact hs t (List.mem_of_mem_tail ht)
      · rcases List.mem_cons.mp ht with rfl | ht
        · exact hp _ List.mem_cons_self
        · exact hs t ht

theorem isEncodable_render {segments : List Text} (h : ∀ t ∈ segments, t.IsEncodable) :
    (render segments).IsEncodable := by
  have hjoin := Text.IsEncodable.join (Text.isEncodable_ofString "/") h
  simp [render, hjoin]

theorem isEncodable_resolve (hp : path.IsEncodable) (hc : cwd.IsEncodable) :
    (resolve path cwd).IsEncodable := by
  refine isEncodable_render fun t ht => ?_
  refine isEncodable_of_mem_foldl_step (fun t => isEncodable_of_mem_segments hp) ?_ t
    (List.mem_reverse.mp ht)
  intro t ht
  split at ht
  · cases ht
  · exact isEncodable_of_mem_segments hc (List.mem_reverse.mp ht)

theorem isEncodable_normalize (h : path.IsEncodable) : (normalize path).IsEncodable :=
  isEncodable_resolve (by simp [h]) (Text.isEncodable_ofString "/")

theorem isEncodable_split (h : path.IsEncodable) :
    (split path).1.IsEncodable ∧ (split path).2.IsEncodable := by
  have hn := isEncodable_normalize h
  have hroot : root.IsEncodable := Text.isEncodable_ofString "/"
  rw [split]
  split
  · exact ⟨hroot, Text.isEncodable_nil⟩
  · split
    · rename_i parent name hcut
      obtain ⟨hparent, hname⟩ := Text.subset_of_cutLast hcut
      refine ⟨?_, hn.of_subset hname⟩
      split
      · exact hroot
      · exact hn.of_subset hparent
    · exact ⟨hroot, hn⟩

theorem isEncodable_join (hp : parent.IsEncodable) (hn : name.IsEncodable) :
    (join parent name).IsEncodable := by
  rw [join]
  split <;> simp [hp, hn]

end Path

namespace Name

variable {name : Text}

theorem isEncodable_candidate (h : name.IsEncodable) (k : Nat) :
    (candidate name k).IsEncodable := by
  have hparts : (stemAndExtension name).1.IsEncodable ∧ (stemAndExtension name).2.IsEncodable := by
    rw [stemAndExtension]
    split
    · rename_i hcut
      obtain ⟨hstem, hextension⟩ := Text.subset_of_cutLast hcut
      exact ⟨h.of_subset hstem, by simp [h.of_subset hextension]⟩
    · exact ⟨h, Text.isEncodable_nil⟩
  have hmark : (copyMark k).IsEncodable := by
    rw [copyMark]
    split <;> simp
  rw [candidate]
  split
  · exact h
  · simp [hparts, hmark]

theorem isEncodable_firstFree (h : name.IsEncodable) (taken : List Text) (more : Nat) :
    ∀ k, (firstFree name taken more k).IsEncodable := by
  induction more with
  | zero => exact isEncodable_candidate h
  | succ more ih =>
    intro k
    rw [firstFree]
    split
    · exact ih _
    · exact isEncodable_candidate h k

theorem isEncodable_forCopy (h : name.IsEncodable) (taken : List Text) :
    (forCopy name taken).IsEncodable := isEncodable_firstFree h taken _ 0

end Name

end VirtualShell
