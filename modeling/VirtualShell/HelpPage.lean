import VirtualShell.Text.Split
/-
  Help pages.

  A page has a description of one line, at most one line that shows the usage, and
  examples. A page may be written as a note in plain text: the first line is the
  description, and the lines after `Usage:` and `Examples:` belong to these.
-/

namespace VirtualShell

/-- A help page. -/
structure HelpPage where
  description : Text := []
  usage : Text := []
  examples : List Text := []
  deriving DecidableEq, Repr

namespace HelpPage

/-- The part of a note that a line belongs to. -/
inductive Part where
  | preamble
  | usage
  | examples
  deriving DecidableEq, Repr

/-- The page with one more line of a note, and the part that the next line belongs to.
Of several lines of usage the last one stays. -/
def takeLine (state : Part × HelpPage) (line : Text) : Part × HelpPage :=
  let (part, page) := state
  let line := line.trim
  if line.startsWith "Usage:" then (.usage, page)
  else if line.startsWith "Examples:" then (.examples, page)
  else if line = [] then (part, page)
  else match part with
    | .preamble => (part, page)
    | .usage => (part, { page with usage := line })
    | .examples => (part, { page with examples := page.examples ++ [line] })

/-- The page that a note spells. -/
def ofNote (note : Text) : HelpPage :=
  match note.trim.lines with
  | [] => {}
  | first :: rest =>
    (rest.foldl takeLine (.preamble, { description := first.trim })).2

/-- The page as shown for the command called `name`. -/
def render (name : Text) (page : HelpPage) : Text :=
  let usage : List Text := if page.usage = [] then [] else ["Usage:", "    " ++ page.usage, []]
  let examples : List Text :=
    if page.examples = [] then []
    else "Examples:" :: page.examples.map fun t => "    " ++ t
  Text.trimRight (Text.join "\n" ((name ++ " - " ++ page.description) :: [] :: usage ++ examples))

end HelpPage

end VirtualShell
