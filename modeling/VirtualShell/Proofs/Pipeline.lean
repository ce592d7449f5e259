import VirtualShell.Pipeline
import VirtualShell.Proofs.Text.Words
/-
  Lines and the pipelines that they spell.

  A line spells just the pipelines that are well formed: whatever the line, the pipeline read from
  it is well formed, and a well-formed pipeline is read back from the line that it is written as.
  The white space that reading drops and writing puts in makes no difference, since the words of
  each stage are the same with it and without.

  What a pipeline says of itself by the text that its stages came from is left out of account; the
  written line has other white space than the one that was read.
-/

namespace VirtualShell

namespace Command

/-- A text that can stand as a word in a stage. -/
def IsWord (t : Text) : Prop :=
  t ≠ [] ∧ ∀ c ∈ t,
    c.isBlank = false ∧ c ≠ CodePoint.ofChar '|' ∧ c ≠ CodePoint.ofChar '>'

/-- An empty command, or one of which the name and all arguments are words. -/
def IsWellFormed (c : Command) : Prop :=
  (c.name = [] ∧ c.args = []) ∨ ∀ word ∈ c.name :: c.args, IsWord word

/-- The name and the arguments. -/
def spelling (c : Command) : Text × List Text := (c.name, c.args)

/-- The name and the arguments that words make. -/
def spelt : List Text → Text × List Text
  | [] => ([], [])
  | name :: args => (name, args)

theorem spelling_ofStage (stage : Text) : (ofStage stage).spelling = spelt stage.words := by
  rw [ofStage]
  cases stage.words <;> rfl

theorem isWellFormed_of_spelling {c : Command} {words : List Text} (h : c.spelling = spelt words)
    (hw : ∀ word ∈ words, IsWord word) : c.IsWellFormed := by
  cases words with
  | nil => exact .inl (Prod.mk.inj h)
  | cons name args =>
    obtain ⟨hname, hargs⟩ := Prod.mk.inj h
    right
    rwa [hname, hargs]

/-- A well-formed command is read back from its text. -/
theorem IsWellFormed.spelt_words_text {c : Command} (h : c.IsWellFormed) :
    spelt c.text.words = c.spelling := by
  rcases h with ⟨hname, hargs⟩ | h
  · rw [text, spelling, hname, hargs]
    rfl
  · rw [text, Text.words_join fun word hm => ⟨(h word hm).1, fun c hc => ((h word hm).2 c hc).1⟩]
    rfl

/-- The text of a well-formed command holds neither of the marks that cut a line. -/
theorem IsWellFormed.not_mem_text {c : Command} (h : c.IsWellFormed) :
    CodePoint.ofChar '|' ∉ c.text ∧ CodePoint.ofChar '>' ∉ c.text := by
  have hwords : ∀ word ∈ c.name :: c.args,
      CodePoint.ofChar '|' ∉ word ∧ CodePoint.ofChar '>' ∉ word := by
    intro word hm
    rcases h with ⟨hname, hargs⟩ | h
    · rw [hname, hargs, List.mem_singleton] at hm
      rw [hm]
      exact ⟨List.not_mem_nil, List.not_mem_nil⟩
    · exact ⟨fun hc => ((h word hm).2 _ hc).2.1 rfl, fun hc => ((h word hm).2 _ hc).2.2 rfl⟩
  constructor
  · intro hc
    rcases Text.mem_of_mem_join hc with hc | ⟨word, hm, hc⟩
    · exact absurd hc (by decide)
    · exact (hwords word hm).1 hc
  · intro hc
    rcases Text.mem_of_mem_join hc with hc | ⟨word, hm, hc⟩
    · exact absurd hc (by decide)
    · exact (hwords word hm).2 hc

end Command

namespace Pipeline

/-- A pipeline of at least one command, each of them well formed, whose target, if it has one, is
not empty and has no white space at its ends. -/
structure IsWellFormed (p : Pipeline) : Prop where
  nonempty : p.commands ≠ []
  commands : ∀ c ∈ p.commands, c.IsWellFormed
  redirect : ∀ target ∈ p.redirect, target ≠ [] ∧
    (∀ c ∈ target.head?, c.isBlank = false) ∧ ∀ c ∈ target.getLast?, c.isBlank = false

/-- Two pipelines with the same names, the same arguments and the same target. -/
def SpellAlike (p q : Pipeline) : Prop :=
  p.commands.map Command.spelling = q.commands.map Command.spelling ∧ p.redirect = q.redirect

/-- The part of a line before the first `>`. -/
def stagesOf (line : Text) : Text := line.takeWhile fun c => c ≠ CodePoint.ofChar '>'

/-! ## Reading -/

section Reading

variable {line before after : Text}

theorem not_mem_stagesOf (line : Text) : CodePoint.ofChar '>' ∉ stagesOf line := by
  intro h
  simpa using List.all_eq_true.mp List.all_takeWhile _ h

theorem stagesOf_append (h : CodePoint.ofChar '>' ∉ before) (after : Text) :
    stagesOf (before ++ after) = before ++ stagesOf after := by
  refine List.takeWhile_append_of_pos fun c hc => decide_eq_true fun e => ?_
  rw [e] at hc
  exact h hc

theorem stagesOf_of_not_mem (h : CodePoint.ofChar '>' ∉ line) : stagesOf line = line := by
  have happend := stagesOf_append h []
  rwa [List.append_nil, show stagesOf [] = [] from rfl, List.append_nil] at happend

theorem stagesOf_append_cons (h : CodePoint.ofChar '>' ∉ before) (after : Text) :
    stagesOf (before ++ CodePoint.ofChar '>' :: after) = before := by
  rw [stagesOf_append h, stagesOf, List.takeWhile_cons, if_neg (by simp), List.append_nil]

theorem cutRedirect_of_not_mem (h : CodePoint.ofChar '>' ∉ line) :
    cutRedirect line = (line.trim, none) := by
  rw [cutRedirect, Text.cut_eq_none h]

theorem cutRedirect_append_cons (h : CodePoint.ofChar '>' ∉ before) (after : Text) :
    cutRedirect (before ++ CodePoint.ofChar '>' :: after) =
      (before.trim, (some after.trim).filter (· ≠ [])) := by
  rw [cutRedirect, Text.cut_append_cons h]

theorem cutRedirect_fst (line : Text) : (cutRedirect line).1 = (stagesOf line).trim := by
  by_cases h : CodePoint.ofChar '>' ∈ line
  · obtain ⟨before, after, rfl, hbefore⟩ := List.eq_append_cons_of_mem h
    rw [cutRedirect_append_cons hbefore, stagesOf_append_cons hbefore]
  · rw [cutRedirect_of_not_mem h, stagesOf_of_not_mem h]

/-- Each stage before the first `>` is read as one command, which has the words of the stage. -/
theorem spelling_ofLine (line : Text) : (ofLine line).commands.map Command.spelling =
    ((stagesOf line).splitOn (CodePoint.ofChar '|')).map fun stage =>
      Command.spelt stage.words := by
  have hcommands : (ofLine line).commands =
      ((stagesOf line).trim.splitOn (CodePoint.ofChar '|')).map fun stage =>
        Command.ofStage stage.trim := by
    rw [← cutRedirect_fst]
    rfl
  have hwords := Text.map_words_splitOn_trim (s := CodePoint.ofChar '|') (by decide)
    (stagesOf line)
  calc (ofLine line).commands.map Command.spelling
    _ = (((stagesOf line).trim.splitOn (CodePoint.ofChar '|')).map Text.words).map
        Command.spelt := by
      simp [hcommands, Command.spelling_ofStage, Text.words_trim]
    _ = _ := by
      rw [hwords, List.map_map]
      rfl

/-- Whatever is read from a line is well formed. -/
theorem isWellFormed_ofLine (line : Text) : (ofLine line).IsWellFormed where
  nonempty h := by
    have hspelling := spelling_ofLine line
    rw [h] at hspelling
    exact Text.pieces_ne_nil _ (List.map_eq_nil_iff.mp hspelling.symm)
  commands c hc := by
    have hspelling := List.mem_map_of_mem (f := Command.spelling) hc
    rw [spelling_ofLine] at hspelling
    obtain ⟨stage, hstage, hwords⟩ := List.mem_map.mp hspelling
    refine Command.isWellFormed_of_spelling hwords.symm fun word hw => ?_
    obtain ⟨hne, hplain⟩ := Text.plain_of_mem_words hw
    refine ⟨hne, fun c hc => ?_⟩
    have hmem : c ∈ stage := Text.subset_of_mem_pieces (List.mem_filter.mp hw).1 hc
    refine ⟨hplain c hc, ?_, ?_⟩
    · rintro rfl
      exact Text.not_mem_of_mem_splitOn hstage hmem
    · rintro rfl
      exact not_mem_stagesOf line (Text.subset_of_mem_pieces hstage hmem)
  redirect target ht := by
    change target ∈ (cutRedirect line).2 at ht
    by_cases h : CodePoint.ofChar '>' ∈ line
    · obtain ⟨before, after, rfl, hbefore⟩ := List.eq_append_cons_of_mem h
      rw [cutRedirect_append_cons hbefore, Option.mem_def, Option.filter_eq_some_iff] at ht
      obtain ⟨ht, hne⟩ := ht
      cases ht
      exact ⟨by simpa using hne, Text.head_trim after, Text.getLast_trim after⟩
    · rw [cutRedirect_of_not_mem h] at ht
      cases ht

end Reading

/-! ## Writing -/

section Writing

variable {p : Pipeline}

/-- Stages written with bars between them are read back, stage by stage. -/
theorem map_words_splitOn_join {ts : List Text} (hne : ts ≠ [])
    (h : ∀ t ∈ ts, CodePoint.ofChar '|' ∉ t) :
    ((Text.join " | " ts).splitOn (CodePoint.ofChar '|')).map Text.words = ts.map Text.words := by
  induction ts with
  | nil => exact absurd rfl hne
  | cons t rest ih =>
    obtain ⟨ht, hrest⟩ := List.forall_mem_cons.mp h
    cases rest with
    | nil => rw [Text.join_singleton, Text.splitOn_of_not_mem ht]
    | cons u more =>
      have hbar : t ++ " | " ++ Text.join " | " (u :: more) =
          (t ++ " ") ++ CodePoint.ofChar '|' :: (" " ++ Text.join " | " (u :: more)) := by
        simp [Text.ofString]
      have hwords : (t ++ " ").words = t.words := Text.words_append_blank t (by decide)
      have hsplit : (t ++ " ").splitOn (CodePoint.ofChar '|') = [t ++ " "] :=
        Text.splitOn_of_not_mem fun hc => (List.mem_append.mp hc).elim ht (by decide)
      rw [Text.join_cons_cons, hbar, Text.splitOn_append_cons, hsplit, List.map_append,
        Text.map_words_splitOn_blank_append (by decide) (by decide), ih (by simp) hrest]
      simp [hwords]

/-- The stages of a pipeline as they stand in its line. -/
def stagesText (p : Pipeline) : Text := Text.join " | " (p.commands.map Command.text)

theorem text_of_redirect_eq_none (h : p.redirect = none) : p.text = p.stagesText := by
  rw [text, h, List.append_nil]
  rfl

theorem text_of_redirect_eq_some {target : Text} (h : p.redirect = some target)
    (hne : target ≠ []) :
    p.text = (p.stagesText ++ " ") ++ CodePoint.ofChar '>' :: (" " ++ target) := by
  rw [text, h]
  simp [hne, stagesText, Text.ofString]

theorem IsWellFormed.not_mem_stagesText (h : p.IsWellFormed) :
    CodePoint.ofChar '>' ∉ p.stagesText := by
  intro hc
  rcases Text.mem_of_mem_join hc with hc | ⟨t, ht, hc⟩
  · exact absurd hc (by decide)
  · obtain ⟨c, hm, rfl⟩ := List.mem_map.mp ht
    exact (h.commands c hm).not_mem_text.2 hc

theorem IsWellFormed.not_mem_stagesText_append (h : p.IsWellFormed) :
    CodePoint.ofChar '>' ∉ p.stagesText ++ " " :=
  fun hc => (List.mem_append.mp hc).elim h.not_mem_stagesText (by decide)

/-- The words of each stage as it stands in the line are those of the command. -/
theorem IsWellFormed.map_words_splitOn (h : p.IsWellFormed) :
    ((stagesOf p.text).splitOn (CodePoint.ofChar '|')).map Text.words =
      (p.commands.map Command.text).map Text.words := by
  have hstages : (p.stagesText.splitOn (CodePoint.ofChar '|')).map Text.words =
      (p.commands.map Command.text).map Text.words := by
    refine map_words_splitOn_join (by simpa using h.nonempty) fun t ht => ?_
    obtain ⟨c, hm, rfl⟩ := List.mem_map.mp ht
    exact (h.commands c hm).not_mem_text.1
  cases hr : p.redirect with
  | none => rw [text_of_redirect_eq_none hr, stagesOf_of_not_mem h.not_mem_stagesText, hstages]
  | some target =>
    rw [text_of_redirect_eq_some hr (h.redirect target hr).1,
      stagesOf_append_cons h.not_mem_stagesText_append,
      Text.map_words_splitOn_append_blank (by decide) _ (by decide), hstages]

theorem IsWellFormed.redirect_ofLine_text (h : p.IsWellFormed) :
    (ofLine p.text).redirect = p.redirect := by
  change (cutRedirect p.text).2 = p.redirect
  cases hr : p.redirect with
  | none => rw [text_of_redirect_eq_none hr, cutRedirect_of_not_mem h.not_mem_stagesText]
  | some target =>
    obtain ⟨hne, hhead, hlast⟩ := h.redirect target hr
    rw [text_of_redirect_eq_some hr hne, cutRedirect_append_cons h.not_mem_stagesText_append,
      Text.trim_blank_append (by decide) hhead hlast]
    simp [hne]

/-- A well-formed pipeline is read back from the line that it is written as. -/
theorem IsWellFormed.spellAlike_ofLine_text (h : p.IsWellFormed) :
    (ofLine p.text).SpellAlike p := by
  refine ⟨?_, h.redirect_ofLine_text⟩
  calc (ofLine p.text).commands.map Command.spelling
    _ = ((p.commands.map Command.text).map Text.words).map Command.spelt := by
      rw [spelling_ofLine, ← h.map_words_splitOn, List.map_map]
      rfl
    _ = p.commands.map Command.spelling := by
      rw [List.map_map, List.map_map]
      exact List.map_congr_left fun c hc => (h.commands c hc).spelt_words_text

/-- Pipelines that spell alike are written alike. -/
theorem SpellAlike.text_eq {p q : Pipeline} (h : p.SpellAlike q) : p.text = q.text := by
  have htext (p : Pipeline) : p.commands.map Command.text =
      (p.commands.map Command.spelling).map fun s => Text.join " " (s.1 :: s.2) := by
    rw [List.map_map]
    rfl
  rw [text, text, htext p, htext q, h.1, h.2]

end Writing

/-! ## The result -/

/-- Reading and writing fit together. Every line gives a well-formed pipeline, with one command for
each stage before the first `>`, and the name and the arguments of a command are the words of its
stage. Every well-formed pipeline is read back from its line. So what is written of what was read
stays as it is when it is read and written again. -/
theorem ofLine_agrees_with_text :
    (∀ line, (ofLine line).IsWellFormed ∧ (ofLine line).commands.map Command.spelling =
      ((stagesOf line).splitOn (CodePoint.ofChar '|')).map fun stage =>
        Command.spelt stage.words) ∧
      (∀ p : Pipeline, p.IsWellFormed → (ofLine p.text).SpellAlike p) ∧
      ∀ line, (ofLine (ofLine line).text).text = (ofLine line).text :=
  ⟨fun line => ⟨isWellFormed_ofLine line, spelling_ofLine line⟩,
    fun _ h => h.spellAlike_ofLine_text,
    fun line => (isWellFormed_ofLine line).spellAlike_ofLine_text.text_eq⟩

/-- Empty stages at both ends, and a target with a bar, a `>` and white space in it. -/
theorem ofLine_agrees_with_text_of_odd_target :
    let p : Pipeline := ⟨[⟨[], [], []⟩, ⟨"ls", ["-a", "b"], []⟩, ⟨[], [], []⟩], some "> a | b"⟩
    p.IsWellFormed ∧ p.text = " | ls -a b |  > > a | b" ∧ (ofLine p.text).SpellAlike p := by
  intro p
  have hword : ∀ word ∈ [Text.ofString "ls", Text.ofString "-a", Text.ofString "b"],
      Command.IsWord word := by
    unfold Command.IsWord
    decide
  have h : p.IsWellFormed := by
    refine ⟨by decide, ?_, fun target ht => ?_⟩
    · simp only [p, List.forall_mem_cons, List.not_mem_nil, false_implies, implies_true, and_true]
      exact ⟨.inl ⟨rfl, rfl⟩, .inr hword, .inl ⟨rfl, rfl⟩⟩
    · cases ht
      exact ⟨by decide, by decide, by decide⟩
  exact ⟨h, by decide, ofLine_agrees_with_text.2.1 p h⟩

end Pipeline

end VirtualShell
