import VirtualShell.Builtin.Basic
import VirtualShell.Session.Calendar
/-
  Commands that tell something: about the session, the machine, the time.
-/

namespace VirtualShell.Builtin

variable {ω : Type}

/-- Prints the date and the time. -/
def date : Builtin ω where
  name := "date"
  page := { description := "Print the current date and time." }
  run _ _ _ := do
    match CalendarTime.ofInstant (← get).now with
    | .ok t => return t.text
    | .error fault => throw fault

/-- Prints its arguments. -/
def echo : Builtin ω where
  name := "echo"
  page := {
    description := "Display a line of text."
    usage := "echo [STRING...]"
    examples := [
      "echo hello world       # Print \"hello world\"",
      "echo hi > note.txt     # Write \"hi\" to note.txt"] }
  run _ args _ := return Text.join " " args

/-- Prints what there is to tell about the machine. -/
def neofetch : Builtin ω where
  name := "neofetch"
  page := { description := "Show system information." }
  run host _ _ :=
    let m := host.machine
    return Text.join "\n" [
      "TreeShell v0.1.0",
      "-----------------",
      "OS: TreeShell (Python " ++ m.runtime ++ ")",
      "Kernel: " ++ m.system ++ " " ++ m.release,
      "Resolution: " ++ Text.ofInt m.columns ++ "x" ++ Text.ofInt m.rows,
      "Theme: Dark"]

/-- Asks for a prompt; a line with a prompt goes to the assistant and does not come here. -/
def ai : Builtin ω where
  name := "ai"
  page := {
    description := "Ask the assistant a question."
    usage := "ai PROMPT"
    examples := ["ai what is a pipe?     # Send a prompt to the assistant"] }
  run _ _ _ := return "Please provide a prompt for the AI. Usage: ai \"your question\""

/-- Lists lines with their numbers, counted from the one given. -/
def numbered : Nat → List Text → List Text
  | _, [] => []
  | n, line :: rest => (Text.ofNat n ++ "  " ++ line) :: numbered (n + 1) rest

/-- Lists the lines that were entered. -/
def history : Builtin ω where
  name := "history"
  page := { description := "List previously entered commands." }
  run _ _ _ := return Text.join "\n" (numbered 1 (← get).history.lines)

/-- Prints the name of the system. -/
def uname : Builtin ω where
  name := "uname"
  page := { description := "Print the system name." }
  run _ _ _ := return "TreeShell (Python)"

/-- Prints the name of the user. If there is none, there is nothing that could be
printed, which is more than printing nothing. -/
def whoami : Builtin ω where
  name := "whoami"
  page := { description := "Print the current user name." }
  run _ _ _ := do
    match (← get).settings.user with
    | some name => return name
    | none => throw .noText

/-- Prints how long the session has lasted. -/
def uptime : Builtin ω where
  name := "uptime"
  page := { description := "Show how long the session has been running." }
  run _ _ _ := do
    let s ← get
    match wholePart (s.now - s.started) with
    | .error fault => throw fault
    | .ok seconds =>
      let days := seconds.fdiv 86400
      let inDay := seconds.fmod 86400
      return "up " ++ Text.ofInt days ++ " day(s), " ++ Text.ofInt (inDay.fdiv 3600) ++
        " hour(s), " ++ Text.ofInt ((inDay.fmod 3600).fdiv 60) ++ " minute(s)"

/-- Prints the address of the machine. -/
def ipconfig : Builtin ω where
  name := "ipconfig"
  page := { description := "Show the public IP address." }
  run host _ _ := do
    match ← Action.attempt (Session.onOutside host.lookUpAddress) with
    | .ok address => return "Public IP Address: " ++ address
    | .error _ => return "Could not retrieve IP address."

end VirtualShell.Builtin
