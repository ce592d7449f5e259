import VirtualShell.Text.Blank
/-
  The lines that were entered, and a place among them.

  Adding drops the oldest line once there are more than the limit allows and puts the
  place past the last line; from there one goes back and forth.
-/

namespace VirtualShell

/-- Lines in the order in which they were entered. -/
structure History where
  limit : Int
  lines : List Text := []
  /-- The index of the current line; past the last one there is no current line. -/
  position : Nat := 0
  deriving DecidableEq, Repr

namespace History

/-- The number of lines that are kept unless another is given. -/
def usualLimit : Int := 1000

/-- The lines after one more is entered. A blank line, or the last one again, adds none. -/
def linesWith (h : History) (line : Text) : List Text :=
  if line.isBlank then h.lines
  else
    let lines := if h.lines.getLast? = some line then h.lines else h.lines ++ [line]
    if h.limit < lines.length then lines.drop 1 else lines

/-- One more line entered. -/
def add (h : History) (line : Text) : History :=
  let lines := h.linesWith line
  { h with lines := lines, position := lines.length }

/-- One line back: that line, or nothing at the first. -/
def previous (h : History) : Option Text × History :=
  if h.position = 0 then (none, h)
  else
    let position := h.position - 1
    (some (h.lines.getD position []), { h with position := position })

/-- One line forth: that line, or an empty one past the last. -/
def next (h : History) : Text × History :=
  if h.position + 1 < h.lines.length then
    let position := h.position + 1
    (h.lines.getD position [], { h with position := position })
  else ([], { h with position := h.lines.length })

end History

end VirtualShell
