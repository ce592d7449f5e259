import VirtualShell.Text.Wrap
/-
  A cow with something to say.
-/

namespace VirtualShell

/-- The width of a speech bubble unless another is given. -/
def bubbleWidth : Int := 40

/-- The lines of a bubble with their edges, given that there is another line above. -/
def bubbleBelow : List Text → List Text
  | [] => []
  | [line] => ["\\ " ++ line ++ " /"]
  | line :: next :: rest => ("| " ++ line ++ " |") :: bubbleBelow (next :: rest)

/-- The lines of a bubble with their edges. -/
def bubbleEdges : List Text → List Text
  | [] => []
  | [line] => ["< " ++ line ++ " >"]
  | line :: next :: rest => ("/ " ++ line ++ " \\") :: bubbleBelow (next :: rest)

/-- A text in a speech bubble. -/
def speechBubble (width : Int) (t : Text) : Text :=
  let lines := t.wrap width
  let edge (c : CodePoint) : Text := " " ++ List.replicate (Text.longest lines + 2) c
  Text.join "\n" ([edge '_'] ++ bubbleEdges lines ++ [edge '-'])

/-- The cow, from the line below a bubble on. -/
def cow : Text :=
  "\n        \\   ^__^\n" ++
  "         \\  (oo)\\_______\n" ++
  "            (__)\\       )\\/\\\n" ++
  "                ||----w |\n" ++
  "                ||     ||"

end VirtualShell
