import VirtualShell.Text.Case
import VirtualShell.Text.Split
/-
  Command lines.

  A line is a pipeline: stages between bars, and after the first `>` the file that
  takes the output. There are no quotes and no flags; a stage is a name and arguments,
  cut at white space. A line that starts with `ai ` is no pipeline but a request to
  the assistant, bars and all.
-/

namespace VirtualShell

/-- One stage: the name of a command, its arguments, and the text it came from. -/
structure Command where
  name : Text
  args : List Text := []
  raw : Text := []
  deriving DecidableEq, Repr

/-- Stages that hand their output on, and the file that takes the output of the last. -/
structure Pipeline where
  commands : List Command
  redirect : Option Text
  deriving DecidableEq, Repr

/-- The command that a stage spells. -/
def Command.ofStage (stage : Text) : Command :=
  match stage.words with
  | [] => { name := [], raw := stage }
  | name :: args => { name := name, args := args, raw := stage }

/-- The command that a text spells when white space around it does not count. -/
def Command.ofText (t : Text) : Command := ofStage t.trim

/-- The command with one space between neighbours. -/
def Command.text (c : Command) : Text := Text.join " " (c.name :: c.args)

namespace Pipeline

/-- The part of a line that holds the stages, and the file named after the first `>`. -/
def cutRedirect (line : Text) : Text × Option Text :=
  match line.cut '>' with
  | none => (line.trim, none)
  | some (stages, target) => (stages.trim, some target.trim |>.filter (· ≠ []))

/-- The pipeline that a line spells. -/
def ofLine (line : Text) : Pipeline :=
  let (stages, redirect) := cutRedirect line
  ⟨(stages.splitOn '|').map fun stage => Command.ofStage stage.trim, redirect⟩

/-- The pipeline as a line. -/
def text (p : Pipeline) : Text :=
  Text.join " | " (p.commands.map Command.text) ++
    match p.redirect with
    | some target => if target = [] then [] else " > " ++ target
    | none => []

end Pipeline

/-- What a request to the assistant starts with, in lower case. -/
def requestMark : Text := "ai "

/-- Whether a line is a request to the assistant. -/
def isRequest (line : Text) : Bool := requestMark.isPrefixOf line.trim.lower

/-- The prompt in a request to the assistant. -/
def requestPrompt (line : Text) : Text := Text.trim (line.trim.drop requestMark.length)

end VirtualShell
