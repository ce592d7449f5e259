import VirtualShell.Proofs.Text.Wrap
import VirtualShell.Bubble
/-
  What a speech bubble shows.

  A bubble is read line by line again because no line of a wrapped text has a line feed in it: its
  words have no white space, and spaces are all that is put between and after them. So its lines are
  the two borders and, between them, the lines of the wrapped text with the edges that belong to
  their places.
-/

namespace VirtualShell

variable {width : Int} {line t : Text}

/-! ## Rows and borders -/

/-- The border above or below lines of a length. -/
def bubbleBorder (length : Nat) (c : CodePoint) : Text := " " ++ List.replicate (length + 2) c

/-- A line with the edges of its place among the lines of a bubble. -/
def bubbleRow (count place : Nat) (line : Text) : Text :=
  if count = 1 then "< " ++ line ++ " >"
  else if place = 0 then "/ " ++ line ++ " \\"
  else if place + 1 = count then "\\ " ++ line ++ " /"
  else "| " ++ line ++ " |"

@[simp] theorem length_bubbleBorder (length : Nat) (c : CodePoint) :
    (bubbleBorder length c).length = length + 3 := by
  rw [bubbleBorder, List.length_append, List.length_replicate]
  simp [Text.ofString]
  omega

@[simp] theorem length_bubbleRow (count place : Nat) (line : Text) :
    (bubbleRow count place line).length = line.length + 4 := by
  rw [bubbleRow]
  split_ifs <;> simp [Text.ofString]

theorem bubbleBelow_eq_mapIdx {above : Nat} (h : 0 < above) (lines : List Text) :
    bubbleBelow lines =
      lines.mapIdx fun place => bubbleRow (lines.length + above) (place + above) := by
  induction lines generalizing above with
  | nil => rfl
  | cons line rest ih =>
    rw [List.mapIdx_cons, Nat.zero_add, bubbleRow]
    cases rest with
    | nil =>
      have hcount : List.length [line] + above = above + 1 := Nat.add_comm 1 above
      rw [hcount, if_neg (by omega), if_neg (by omega), if_pos rfl]
      rfl
    | cons next more =>
      -- the lines below have one line more above them, and are as many in all
      have hcount : (line :: next :: more).length + above =
          (next :: more).length + (above + 1) := by
        rw [List.length_cons, Nat.add_assoc, Nat.add_comm 1 above]
      have hrows (count : Nat) : (fun place => bubbleRow count (place + 1 + above)) =
          fun place => bubbleRow count (place + (above + 1)) := by
        funext place
        rw [Nat.add_assoc, Nat.add_comm 1 above]
      have hlast : above + 1 ≠ (next :: more).length + (above + 1) := by
        rw [List.length_cons]
        omega
      rw [hcount, if_neg (by omega), if_neg (by omega), if_neg hlast, hrows, bubbleBelow,
        ih (Nat.succ_pos above)]

/-- Every line of a bubble has the edges of its place. -/
theorem bubbleEdges_eq_mapIdx (lines : List Text) :
    bubbleEdges lines = lines.mapIdx (bubbleRow lines.length) := by
  cases lines with
  | nil => rfl
  | cons line rest =>
    cases rest with
    | nil => rfl
    | cons next more =>
      rw [bubbleEdges, List.mapIdx_cons, bubbleBelow_eq_mapIdx Nat.one_pos, bubbleRow,
        if_neg (by simp), if_pos rfl]
      rfl

/-! ## The lines of a bubble -/

theorem not_mem_of_mem_wrap (h : line ∈ t.wrap width) : CodePoint.ofChar '\n' ∉ line := by
  have hword : ∀ word ∈ line.words, CodePoint.ofChar '\n' ∉ word := by
    intro word hword hmem
    have hblank := (Text.plain_of_mem_words hword).2 _ hmem
    exact absurd hblank (by decide)
  have hspace : CodePoint.ofChar '\n' ≠ CodePoint.ofChar ' ' := by decide
  rw [Text.eq_padRight_of_mem_wrap h, Text.padRight, List.mem_append, not_or]
  refine ⟨fun hmem => ?_, fun hmem => hspace (List.eq_of_mem_replicate hmem)⟩
  rcases Text.mem_of_mem_join hmem with hmem | ⟨word, hmem, hin⟩
  · exact hspace (List.mem_singleton.mp hmem)
  · exact hword word hmem hin

theorem not_mem_bubbleRow {count place : Nat} (h : CodePoint.ofChar '\n' ∉ line) :
    CodePoint.ofChar '\n' ∉ bubbleRow count place line := by
  rw [bubbleRow]
  split_ifs <;> simp [h, Text.ofString] <;> decide

theorem not_mem_bubbleBorder {c : CodePoint} (h : CodePoint.ofChar '\n' ≠ c) (length : Nat) :
    CodePoint.ofChar '\n' ∉ bubbleBorder length c := by
  rw [bubbleBorder, List.mem_append, not_or]
  exact ⟨by decide, fun hmem => h (List.eq_of_mem_replicate hmem)⟩

theorem lines_speechBubble (width : Int) (t : Text) :
    Text.lines (speechBubble width t) =
      [bubbleBorder (Text.longest (t.wrap width)) '_'] ++
        (t.wrap width).mapIdx (bubbleRow (t.wrap width).length) ++
        [bubbleBorder (Text.longest (t.wrap width)) '-'] := by
  have hbubble : speechBubble width t = Text.join "\n"
      ([bubbleBorder (Text.longest (t.wrap width)) '_'] ++ bubbleEdges (t.wrap width) ++
        [bubbleBorder (Text.longest (t.wrap width)) '-']) := rfl
  rw [hbubble, bubbleEdges_eq_mapIdx]
  refine Text.splitOn_join (by simp) fun row hrow => ?_
  simp only [List.mem_append, List.mem_singleton, List.mem_mapIdx] at hrow
  rcases hrow with (rfl | ⟨place, hplace, rfl⟩) | rfl
  · exact not_mem_bubbleBorder (by decide) _
  · exact not_mem_bubbleRow (not_mem_of_mem_wrap (List.getElem_mem hplace))
  · exact not_mem_bubbleBorder (by decide) _

/-- Wrapping a text breaks its words into as few lines as there can be for the width and puts spaces
at the ends of the lines up to one length; a bubble shows these lines in their order. -/
theorem bubble_shows_shortest_breaking (width : Int) (t : Text) :
    t.wrap width ≠ [] ∧
    Text.IsBreaking width t.words ((t.wrap width).map Text.words) ∧
    ((t.wrap width).map Text.words).IsChain (Text.Overflows width) ∧
    (t.words ≠ [] → ∀ lines, Text.IsBreaking width t.words lines →
      (t.wrap width).length ≤ lines.length) ∧
    ∃ length,
      (∀ line ∈ t.wrap width,
        line.length = length ∧ line = Text.padRight length (Text.join " " line.words)) ∧
      (∃ line ∈ t.wrap width, line = Text.join " " line.words) ∧
      Text.lines (speechBubble width t) = [bubbleBorder length '_'] ++
        (t.wrap width).mapIdx (bubbleRow (t.wrap width).length) ++ [bubbleBorder length '-'] ∧
      (∀ row ∈ (t.wrap width).mapIdx (bubbleRow (t.wrap width).length), row.length = length + 4) ∧
      ∀ c, (bubbleBorder length c).length = length + 3 := by
  have hlength : ∀ line ∈ t.wrap width, line.length = Text.longest (t.wrap width) :=
    fun line hline => by rw [Text.longest_wrap, Text.length_of_mem_wrap hline]
  have hfewest : ∀ lines, Text.IsBreaking width t.words lines → t.words ≠ [] →
      (t.wrap width).length ≤ lines.length := by
    intro lines hlines hwords
    rw [← List.length_map Text.words, Text.map_words_wrap]
    exact hlines.length_fill_le hwords
  refine ⟨Text.wrap_ne_nil width t, ?_, ?_, fun hwords lines hlines => hfewest lines hlines hwords,
    Text.longest (t.wrap width), fun line hline => ⟨hlength line hline, ?_⟩,
    Text.exists_eq_join_of_wrap width t, lines_speechBubble width t, fun row hrow => ?_,
    length_bubbleBorder _⟩
  · rw [Text.map_words_wrap]
    exact Text.isBreaking_fill width t.words
  · rw [Text.map_words_wrap]
    exact Text.isChain_fill width [] t.words
  · exact Text.eq_padRight_of_mem_wrap hline
  · obtain ⟨place, hplace, rfl⟩ := List.mem_mapIdx.mp hrow
    rw [length_bubbleRow, hlength _ (List.getElem_mem hplace)]

/-- A word that is too long for any line has one to itself, and three lines are the fewest then. -/
theorem bubble_of_overlong_word :
    Text.IsBreaking 7 (Text.words "a  bb overlong ccc d")
        [["a", "bb"], ["overlong"], ["ccc", "d"]] ∧
      (Text.wrap 7 "a  bb overlong ccc d").length ≤ 3 := by
  have hlines : Text.IsBreaking 7 (Text.words "a  bb overlong ccc d")
      [["a", "bb"], ["overlong"], ["ccc", "d"]] := ⟨by decide, by decide⟩
  exact ⟨hlines, (bubble_shows_shortest_breaking 7 "a  bb overlong ccc d").2.2.2.1
    (by decide) _ hlines⟩

example : Text.wrap 7 "a  bb overlong ccc d" = ["a bb    ", "overlong", "ccc d   "] := by decide

end VirtualShell
