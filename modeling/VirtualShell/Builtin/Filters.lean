import VirtualShell.Builtin.Basic
import VirtualShell.Pattern.Reader
import VirtualShell.Pattern.Search
/-
  Commands that read text, from the stage before or from a file.
-/

namespace VirtualShell.Builtin

variable {ω : Type}

/-- The lines of a text that have a hit, with every hit marked that takes in anything. -/
def matchingLines (pattern : Pattern) (t : Text) : List Text :=
  ((t.lines.map pattern.pieces).filter anyHit).map
    (markHits fun hit => if hit = [] then [] else Markup.highlight hit)

/-- The text to search: what the stage before put out, or else a file. The file is
looked at only where there is no other text. -/
def searchedText (s : Session ω) (files : List Text) (input : Text) : Except Text Text :=
  if input ≠ [] then .ok input
  else match files with
    | [] => .ok []
    | file :: _ => match s.volume.content? (s.resolve file) with
      | some content => .ok content
      | none => .error file

/-- Prints the lines that a pattern matches. -/
def grep : Builtin ω where
  name := "grep"
  page := {
    description := "Print lines matching a pattern, highlighting the matches."
    usage := "grep PATTERN [FILE]"
    examples := [
      "grep error log.txt     # Search a file",
      "ls | grep txt          # Filter piped input"] }
  run _ args input := do
    match args with
    | [] => return "usage: grep [pattern] [file?]"
    | written :: files =>
      match Pattern.ofText written with
      | .error (.malformed cause position) =>
        return Markup.error ("grep: invalid regex: " ++ cause.report position written)
      | .error .repetitionTooLarge => throw (.tooLarge "the repetition number is too large")
      | .error .tooManyDigits => throw (.unsuitable "too many digits in a number")
      | .error .incompatibleFlags =>
        throw (.unsuitable "ASCII and UNICODE flags are incompatible")
      | .ok pattern =>
        match searchedText (← get) files input with
        | .error file => return Markup.error ("grep: " ++ file ++ ": No such file or directory")
        | .ok t =>
          if t = [] then return []
          return Text.join "\n" (matchingLines pattern t)

/-- The numbers of lines, words and bytes of a text. -/
def counts (t : Text) : Except Fault Text :=
  match t.utf8Length? with
  | none => .error (.unencodable t)
  | some size =>
    .ok (Text.join " " [Text.ofNat t.lines.length, Text.ofNat t.words.length, Text.ofNat size])

/-- Prints the numbers of lines, words and bytes. -/
def wc : Builtin ω where
  name := "wc"
  page := {
    description := "Print line, word and byte counts."
    usage := "wc [FILE]"
    examples := [
      "wc welcome.txt         # Count a file",
      "cat a.txt | wc         # Count piped input"] }
  run _ args input := do
    if input = [] && args = [] then return "usage: wc [file]"
    match searchedText (← get) args input with
    | .error file => return Markup.error ("wc: " ++ file ++ ": No such file or directory")
    | .ok t => match counts t with
      | .error fault => throw fault
      | .ok line => return line

end VirtualShell.Builtin
