import VirtualShell.Proofs.Pattern.Hits
import VirtualShell.Proofs.Session.Escape
import VirtualShell.Proofs.Session.PathArgument
/-
  What a search prints.

  A search prints the lines in which the pattern has a match, each with its hits marked. The marks
  are all that is added: without them the lines are there as they were, in their order and as often
  as they came.
-/

namespace VirtualShell

variable {ω : Type} {host : Host ω} {s : Session ω}

/-- The text that a filter is given: what the stage before put out or, where that is nothing, the
file that is named first, if any is. -/
def Session.IsGiven (s : Session ω) (files : List Text) (input t : Text) : Prop :=
  (input = t ∧ (t ≠ [] ∨ files = [])) ∨
    (input = [] ∧ ∃ file more, files = file :: more ∧ s.volume.content? (s.resolve file) = some t)

namespace Builtin

variable {files : List Text} {input t written : Text} {pattern : Pattern}

theorem searchedText_of_isGiven (h : s.IsGiven files input t) :
    searchedText s files input = .ok t := by
  unfold searchedText
  rcases h with ⟨rfl, hne | rfl⟩ | ⟨rfl, file, more, rfl, hcontent⟩
  · rw [if_pos hne]
  · split
    · rfl
    · rename_i hempty
      rw [not_not.mp hempty]
  · rw [if_neg (by simp)]
    dsimp only
    rw [hcontent]

theorem markHits_piecesFrom_nil (line : Line) (fuel : Nat) (moving : Bool) (i : Nat) :
    markHits Pattern.markedHit (pattern.piecesFrom line fuel moving i []) = [] := by
  induction fuel generalizing moving i with
  | zero => rfl
  | succ fuel ih =>
    rw [Pattern.piecesFrom]
    split
    · rfl
    · rename_i j n _
      have hmore := ih (n == 0) (j + n)
      rw [markHits] at hmore
      rw [List.take_nil, List.drop_nil, List.take_nil, List.drop_nil, markHits, List.flatMap_cons,
        List.flatMap_cons, hmore]
      rfl

/-- What a search puts out is the lines with a match, with their hits marked. An empty text is no
exception, though it is not searched. -/
theorem run_grep (hp : Pattern.ofText written = .ok pattern) (ht : s.IsGiven files input t) :
    grep.run host (written :: files) input s =
      (.ok (Text.join "\n" (matchingLines pattern t)), s) := by
  have hrun : grep.run host (written :: files) input s =
      (if t = [] then pure [] else pure (Text.join "\n" (matchingLines pattern t)) :
        Action (Session ω) Text) s := by
    unfold grep
    dsimp only
    rw [hp]
    dsimp only
    rw [Action.get_bind_apply, searchedText_of_isGiven ht]
  rw [hrun]
  split
  · rename_i hempty
    have hnothing : Text.join "\n" (matchingLines pattern t) = [] := by
      rw [hempty]
      show Text.join "\n" (([pattern.pieces []].filter anyHit).map (markHits Pattern.markedHit)) = []
      rw [List.filter_singleton]
      cases anyHit (pattern.pieces []) with
      | true =>
        rw [cond_true, List.map_singleton, Text.join_singleton]
        exact markHits_piecesFrom_nil _ _ _ _
      | false => rfl
    rw [hnothing]
    rfl
  · rfl

/-- The lines that are put out are those that the pattern matches, each with its hits marked. -/
theorem forall₂_isMarked (pattern : Pattern) (t : Text) :
    List.Forall₂ pattern.IsMarked (t.lines.filter fun line => decide (pattern.Matches line))
      (matchingLines pattern t) := by
  have hlines : matchingLines pattern t =
      (t.lines.filter fun line => decide (pattern.Matches line)).map fun line =>
        markHits Pattern.markedHit (pattern.pieces line) := by
    rw [matchingLines, List.filter_map, List.map_map]
    have hany : (anyHit ∘ pattern.pieces) = fun line => decide (pattern.Matches line) :=
      funext fun line => (Pattern.pieces_marked pattern line).1
    rw [hany]
    rfl
  rw [hlines, List.forall₂_map_right_iff, List.forall₂_same]
  intro line hline
  exact (Pattern.pieces_marked pattern line).2 (by simpa using (List.mem_filter.mp hline).2)

theorem map_strip_of_isMarked {lines shown : List Text}
    (h : List.Forall₂ pattern.IsMarked lines shown)
    (hescape : ∀ line ∈ lines, Markup.escape ∉ line) : shown.map Markup.strip = lines := by
  induction h with
  | nil => rfl
  | cons hmarked _ ih =>
    rw [List.forall_mem_cons] at hescape
    rw [List.map_cons, hmarked.strip hescape.1, ih hescape.2]

end Builtin

/-! ## The result -/

/-- A search with a text that is a pattern, of a text without escape characters, ends and puts out
the lines in which the pattern has a match, each with its hits marked: those hits and no others,
from left to right, and of them those that take in something. Stripped, the output is these lines
themselves, in order and as often as they come. -/
theorem searched_lines {ω : Type} (host : Host ω) (s : Session ω) {written : Text}
    {pattern : Pattern} (hp : Pattern.ofText written = .ok pattern) {files : List Text}
    {input t : Text} (ht : s.IsGiven files input t) (hescape : Markup.escape ∉ t) :
    let lines := t.lines.filter fun line => decide (pattern.Matches line)
    ∃ output shown, dispatch host "grep" (written :: files) input s = (.ok output, s) ∧
      output = Text.join "\n" shown ∧ List.Forall₂ pattern.IsMarked lines shown ∧
      Markup.strip output = Text.join "\n" lines := by
  intro lines
  have hgrep : dispatch host "grep" (written :: files) input =
      Builtin.grep.run host (written :: files) input :=
    dispatch_name (c := Builtin.grep) (by simp [Builtin.table, Builtin.others]) _ input
  have hmarked := Builtin.forall₂_isMarked pattern t
  refine ⟨_, Builtin.matchingLines pattern t, ?_, rfl, hmarked, ?_⟩
  · rw [hgrep, Builtin.run_grep hp ht]
  · rw [Markup.strip_join_lines, Builtin.map_strip_of_isMarked hmarked]
    intro line hline hm
    exact hescape (Text.subset_of_mem_pieces (List.mem_filter.mp hline).1 hm)

/-- A pattern that also matches empty lines: they are among the lines that are put out, and their
hits leave no mark. -/
theorem searched_lines_with_empty_hit :
    let first : Session Unit := Session.start
      ⟨Node.defaultTree 0, false, none, Store.empty, Volume.defaultKey⟩ {} History.usualLimit 1 ()
    let pattern : Pattern := .alt (.repeats .greedy 1 none (.letter {} (CodePoint.ofChar 'b')))
      (.seq (.anchor {} .lineStart) (.anchor {} .lineEnd))
    let t : Text := Text.ofString "abb\n\nxyz\nabb"
    Pattern.ofText "b+|^$" = .ok pattern ∧ first.IsGiven [] t t ∧ Markup.escape ∉ t ∧
      ∃ output,
        dispatch (Surroundings.deserted.host 0) "grep" ["b+|^$"] t first = (.ok output, first) ∧
        output = "a" ++ Markup.highlight "bb" ++ "\n\na" ++ Markup.highlight "bb" ∧
        Markup.strip output = "abb\n\nabb" := by
  intro first pattern t
  have hp : Pattern.ofText "b+|^$" = .ok pattern := rfl
  have ht : first.IsGiven [] t t := .inl ⟨rfl, .inl (by decide)⟩
  have hescape : Markup.escape ∉ t := by decide
  obtain ⟨output, shown, hrun, -, -, hstrip⟩ :=
    searched_lines (Surroundings.deserted.host 0) first hp ht hescape
  have hlines : (t.lines.filter fun line => decide (pattern.Matches line)) =
      (["abb", "", "abb"] : List Text) := by decide +kernel
  rw [hlines] at hstrip
  have houtput : (dispatch (Surroundings.deserted.host 0) "grep" ["b+|^$"] t first).1.toOption =
      some ("a" ++ Markup.highlight "bb" ++ "\n\na" ++ Markup.highlight "bb") := by decide +kernel
  rw [hrun] at houtput
  exact ⟨hp, ht, hescape, output, hrun, Option.some.inj houtput, hstrip⟩

end VirtualShell
