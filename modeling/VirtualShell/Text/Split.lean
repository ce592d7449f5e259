import VirtualShell.Text.Blank
/-
  Cutting text into pieces and joining pieces into text.

  `pieces` is the one splitter: it cuts at every separator and keeps empty
  pieces, so `t` has one piece more than it has separators. Splitting at one code
  point, splitting into lines and splitting into words are all made from it.
-/

namespace VirtualShell.Text

/-- The stretches between separators, in order, empty ones included. -/
def pieces (separates : CodePoint → Bool) : Text → List Text
  | [] => [[]]
  | c :: rest =>
    if separates c then [] :: pieces separates rest
    else match pieces separates rest with
      | [] => [[c]]
      | piece :: more => (c :: piece) :: more

/-- The stretches between occurrences of one code point. -/
def splitOn (separator : CodePoint) (t : Text) : List Text := pieces (· == separator) t

/-- The lines of a text, cut at line feeds. -/
def lines (t : Text) : List Text := splitOn '\n' t

/-- The words of a text: the non-empty stretches between white space. -/
def words (t : Text) : List Text := (pieces CodePoint.isBlank t).filter (· ≠ [])

/-- The texts in order with `separator` between neighbours. -/
def join (separator : Text) (ts : List Text) : Text := List.intercalate separator ts

/-- Whether the text starts with another. -/
def startsWith (t beginning : Text) : Bool := beginning.isPrefixOf t

/-- What follows the beginning of a text, if it does begin so. -/
def afterBeginning? (beginning t : Text) : Option Text :=
  if beginning.isPrefixOf t then some (t.drop beginning.length) else none

/-- The text before and after the first occurrence of a code point. -/
def cut (separator : CodePoint) : Text → Option (Text × Text)
  | [] => none
  | c :: rest =>
    if c = separator then some ([], rest)
    else (cut separator rest).map fun p => (c :: p.1, p.2)

/-- The text before and after the last occurrence of a code point. -/
def cutLast (separator : CodePoint) : Text → Option (Text × Text)
  | [] => none
  | c :: rest =>
    match cutLast separator rest with
    | some p => some (c :: p.1, p.2)
    | none => if c = separator then some ([], rest) else none

/-- The text before and after the first occurrence of another text. -/
def cutText (mark : Text) : Text → Option (Text × Text)
  | [] => if mark = [] then some ([], []) else none
  | c :: rest =>
    if mark.isPrefixOf (c :: rest) then some ([], (c :: rest).drop mark.length)
    else (cutText mark rest).map fun p => (c :: p.1, p.2)

end VirtualShell.Text
