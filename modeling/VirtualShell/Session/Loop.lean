import VirtualShell.Session.Run
/-
  The interactive loop.

  The loop shows the log, then prompts for a line, runs it and shows what came of it,
  until it is told to leave or there are no more lines. An interrupt gives up the line;
  a fault is shown and the loop goes on. A prompt that cannot be made would be a fault
  again and again without any line being taken, so that is the one fault that ends
  the loop.
-/

namespace VirtualShell.Session

variable {ω : Type}

/-- What arrives at a prompt. -/
inductive Entry where
  | line (t : Text)
  | interrupt
  deriving DecidableEq, Repr

/-- An entry, and the instant at which it is taken up. -/
structure Arrival where
  instant : Float
  entry : Entry

/-- Whether a line tells the loop to leave. -/
def leaves (line : Text) : Bool :=
  let word := Text.lower line.trim
  word = "exit" || word = "quit"

/-- What the last prompt of a loop is followed by. -/
def farewell : Text := "Goodbye!\n"

/-- The prompt as it is put on the screen. -/
def showPrompt : Action (Session ω) Text := do
  match (← get).prompt with
  | .ok prompt => return prompt
  | .error _ => throw .endless

/-- A line run at an instant. -/
def runAt (host : Host ω) (instant : Float) (line : Text) : Action (Session ω) Text := do
  modify fun s => { s with now := instant }
  run host line

/-- What a line puts on the screen. -/
def showRun (host : Host ω) (instant : Float) (line : Text) : Action (Session ω) Text := do
  match ← Action.attempt (runAt host instant line) with
  | .ok output =>
    let s ← get
    return if output = [] then [] else s.display output ++ "\n"
  | .error fault => return "Error: " ++ fault.message ++ "\n"

/-- What an entry puts on the screen, and whether the loop goes on after it. -/
def answer (host : Host ω) : Arrival → Action (Session ω) (Text × Bool)
  | ⟨_, .interrupt⟩ => return ("^C\n", true)
  | ⟨instant, .line t⟩ =>
    if leaves t then return ([], false) else return (← showRun host instant t, true)

/-- What the arrivals put on the screen, a prompt before each, up to the farewell. -/
def showArrivals (host : Host ω) : List Arrival → Action (Session ω) Text
  | [] => return (← showPrompt) ++ "\n" ++ farewell
  | arrival :: rest => do
    let prompt ← showPrompt
    let (shown, goesOn) ← answer host arrival
    if goesOn then return prompt ++ shown ++ (← showArrivals host rest)
    return prompt ++ shown ++ farewell

/-- A line of the log as it is put on the screen. -/
def showLogLine (s : Session ω) (line : LogLine) : Text := s.display line.text ++ "\n"

/-- What the loop puts on the screen before the first prompt. -/
def opening (s : Session ω) : Text := s.log.flatMap s.showLogLine ++ "\n"

/-- All that the loop puts on the screen for what arrives and the end of input. -/
def converse (host : Host ω) (arrivals : List Arrival) : Action (Session ω) Text := do
  return (← get).opening ++ (← showArrivals host arrivals)

/-- The loop where everything arrives at the instant that it now is. -/
def interact (host : Host ω) (entries : List Entry) : Action (Session ω) Text := do
  let s ← get
  converse host (entries.map (⟨s.now, ·⟩))

end VirtualShell.Session
