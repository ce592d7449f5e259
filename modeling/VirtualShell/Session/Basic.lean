import VirtualShell.Bus
import VirtualShell.FileSystem.Corruption
import VirtualShell.Markup
import VirtualShell.Session.History
/-
  Sessions, and the host that a session runs on.

  A session is all that a command can change: the volume, the working directory, the
  history, the log, and the state of whatever lies outside. The host is all that a
  command can turn to and not change: a source of random numbers, a way to wait, a way
  to learn the address, perhaps an assistant, and the bus.
-/

namespace VirtualShell

/-- What a line of the log is. -/
inductive LineKind where
  /-- A line that was entered. -/
  | command
  /-- What came of one. -/
  | response
  deriving DecidableEq, Repr

/-- A line of the log. -/
structure LogLine where
  kind : LineKind
  text : Text
  deriving DecidableEq, Repr

/-- What a session is set to. -/
structure Settings where
  /-- The name of the user, if there is one. -/
  user : Option Text := some "user"
  hostname : Text := "treeshell"
  /-- The template of the prompt where there are no colours. -/
  promptFormat : Text := "\x7buser\x7d@\x7bhostname\x7d:\x7bcwd\x7d$ "
  colors : Bool := true
  /-- The seconds between the replies to a ping. -/
  pingDelay : Number := .real 0.5

/-- The name of the user as a prompt shows it: a pair of brackets if there is none. -/
def Settings.shownUser (settings : Settings) : Text := settings.user.getD "[]"

/-- A session; what lies outside has a state of type `ω`. -/
structure Session (ω : Type) where
  volume : Volume
  settings : Settings
  history : History
  log : List LogLine
  cwd : Text
  /-- The instant at which the session began. -/
  started : Float
  /-- The instant at which everything now happens. -/
  now : Float
  outside : ω

/-- What there is to tell about the machine. -/
structure Machine where
  runtime : Text := "3.11.2"
  system : Text := "Linux"
  release : Text := "6.1.0"
  columns : Int := 80
  rows : Int := 24

/-- What the commands of a session can turn to. -/
structure Host (ω : Type) where
  source : Source ω
  sleep : Number → ω → ω
  lookUpAddress : Action ω Text
  assistant : Option (Text → Action (Session ω) Text)
  bus : Bus (Session ω)
  machine : Machine

namespace Session

variable {ω α : Type}

/-- The first line of every log. -/
def welcome : Text := "Welcome to TreeShell. Type 'help' for commands."

/-- A session that begins at the instant `now`. -/
def start (volume : Volume) (settings : Settings) (limit : Int) (now : Float) (outside : ω) :
    Session ω where
  volume := volume
  settings := settings
  history := { limit := limit }
  log := [⟨.response, welcome⟩]
  cwd := Path.root
  started := now
  now := now
  outside := outside

/-- A call on the volume of the session. -/
def onVolume (call : Action Volume α) : Action (Session ω) α :=
  Action.onPart (fun s : Session ω => s.volume) (fun v s => { s with volume := v }) call

/-- A call on what lies outside. -/
def onOutside (call : Action ω α) : Action (Session ω) α :=
  Action.onPart (fun s : Session ω => s.outside) (fun w s => { s with outside := w }) call

/-- A draw from what lies outside. -/
def draw (next : ω → α × ω) : Action (Session ω) α := do
  let s ← get
  let (a, w) := next s.outside
  set { s with outside := w }
  return a

/-- A change of the tree at the instant that it now is: whether it was made. -/
def change (m : Mutation) : Action (Session ω) Bool := do
  let s ← get
  onVolume (Volume.apply s.now m)

/-- The starting tree put back. -/
def reset : Action (Session ω) Unit := do
  let s ← get
  onVolume (Volume.reset s.now)

/-- The tree damaged at random. -/
def corrupt (source : Source ω) : Action (Session ω) Unit := do
  let s ← get
  Action.onPart (fun s : Session ω => (s.volume, s.outside))
    (fun p s => { s with volume := p.1, outside := p.2 }) (Volume.corrupt source s.now)

/-- The normal path that a path means in the working directory. -/
def resolve (s : Session ω) (path : Text) : Text := Path.resolve path s.cwd

/-- A response put into the log. -/
def respond (t : Text) : Action (Session ω) Text := do
  modify fun s => { s with log := s.log ++ [⟨.response, t⟩] }
  return t

end Session

end VirtualShell
