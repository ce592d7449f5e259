import VirtualShell.Builtin.Table
import VirtualShell.Pipeline
import VirtualShell.Session.Template
/-
  Running a line.

  A line is entered into the history and the log, and then it either goes to the
  assistant or its stages run one after another, each on the plain text of what the one
  before put out. The output of the last goes to the log or, as plain text, to a file.
  A stage that fails puts out the reason and the pipeline goes on; a stage named
  `clear` ends the line at once and empties the log.
-/

namespace VirtualShell.Session

variable {ω : Type}

/-- The output of a stage; a fault is put into words, but for the lack of any output. -/
def runStage (host : Host ω) (command : Command) (input : Text) : Action (Session ω) Text := do
  match ← Action.attempt (dispatch host command.name command.args input) with
  | .ok output => return output
  | .error .noText => throw .noText
  | .error fault => return Markup.error (command.name ++ ": " ++ fault.message)

/-- Whether a stage clears the screen. -/
def clears (command : Command) : Bool := command.name.lower = "clear"

/-- The output of the last of the stages, given the output so far; none if a stage on
the way clears the screen. -/
def runStages (host : Host ω) : List Command → Text → Action (Session ω) (Option Text)
  | [], output => return some output
  | command :: rest, output => do
    if clears command then return none
    let output ← runStage host command (Markup.strip output)
    runStages host rest output

/-- Why output could not be put into the file at a path, in words; `target` is how the
file was named. -/
def redirectFailure (v : Volume) (target path : Text) : Text :=
  if v.lastError = some .protectedPath then target ++ " is write-protected."
  else if (v.directory? path).isSome then target ++ " is a directory."
  else if (v.directory? (Path.split path).1).isNone then "Directory does not exist."
  else "Could not write to " ++ target ++ "."

/-- Output put into the file called `target`, which is created if need be. -/
def redirect (target content : Text) : Action (Session ω) Text := do
  let s ← get
  let path := s.resolve target
  let (parent, name) := Path.split path
  let written ← change
    (if s.volume.has path then .write path content else .createFile parent name content)
  if written then return []
  respond (Markup.error (redirectFailure (← get).volume target path))

/-- A prompt put to the assistant, if there is one. -/
def askAssistant (host : Host ω) (prompt : Text) : Action (Session ω) Text := do
  match host.assistant with
  | none => respond (Markup.error
      "Error: AI is not configured. Start the session with an assistant to use ai.")
  | some ask => match ← Action.attempt (ask prompt) with
    | .ok reply => respond reply
    | .error _ => respond (Markup.error "Error: Could not get a response from the AI.")

/-- A pipeline run. -/
def runPipeline (host : Host ω) (p : Pipeline) : Action (Session ω) Text := do
  match ← runStages host p.commands [] with
  | none =>
    modify fun s => { s with log := [] }
    return Markup.clearScreen
  | some output => match p.redirect with
    | some target => redirect target (Markup.strip output)
    | none => if output = [] then return [] else respond output

/-- A line entered and run: what it put out. Nothing comes of a blank line. -/
def run (host : Host ω) (line : Text) : Action (Session ω) Text := do
  if line.isBlank then return []
  modify fun s => { s with
    history := s.history.add line, log := s.log ++ [⟨.command, line⟩] }
  if isRequest line then askAssistant host (requestPrompt line)
  else runPipeline host (Pipeline.ofLine line)

/-- Whether a trimmed line of a script is to be run; comments and blank lines are not. -/
def isScriptCommand (line : Text) : Bool := line ≠ [] && !line.startsWith "#"

/-- Lines run one after another, without the white space around them: what each put
out. -/
def runAll (host : Host ω) : List Text → Action (Session ω) (List Text)
  | [] => return []
  | line :: rest => do
    let output ← run host line
    return output :: (← runAll host rest)

/-- A script run: what each of its commands put out. -/
def runScript (host : Host ω) (lines : List Text) : Action (Session ω) (List Text) :=
  runAll host ((lines.map Text.trim).filter isScriptCommand)

/-- The working directory as the prompt shows it. -/
def shownDirectory (s : Session ω) : Text :=
  if s.cwd = Path.root then "~" else Path.lastSegment s.cwd

/-- The prompt: in colours, or as the template has it. -/
def prompt (s : Session ω) : Except Fault Text :=
  if s.settings.colors then
    .ok (Markup.green ++ s.settings.shownUser ++ "@" ++ s.settings.hostname ++ Markup.reset ++ ":" ++
      Markup.blue ++ s.shownDirectory ++ Markup.reset ++ "$ ")
  else
    Template.fill [("user", s.settings.shownUser), ("hostname", s.settings.hostname),
      ("cwd", s.shownDirectory)] s.settings.promptFormat

/-- A text as the terminal shows it. -/
def display (s : Session ω) (t : Text) : Text :=
  if s.settings.colors then t else Markup.strip t

end VirtualShell.Session
