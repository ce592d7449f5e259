import VirtualShell.Text.Split
/-
  Wrapping words into lines of equal length.

  A line takes words as long as they fit into the width; a word that is too long
  for any line has one to itself. Then all lines are padded to the longest of them.
-/

namespace VirtualShell.Text

/-- The lines that a line begun and the words to come make up. -/
def fillLines (width : Int) : Text → List Text → List Text
  | line, [] => [line]
  | line, word :: words =>
    if line = [] then fillLines width word words
    else if width < line.length + 1 + word.length then line :: fillLines width word words
    else fillLines width (line ++ " " ++ word) words

/-- The length of the longest of the texts. -/
def longest (ts : List Text) : Nat := ts.foldl (fun n t => max n t.length) 0

/-- The words of a text in lines of equal length. -/
def wrap (width : Int) (t : Text) : List Text :=
  let lines := fillLines width [] t.words
  lines.map (padRight (longest lines))

end VirtualShell.Text
