import VirtualShell.CommandLine.Arguments
import VirtualShell.Session.Loop
import VirtualShell.Session.Scripted
/-
  A run of the program: a session over the store that the arguments name, in which
  either one line is run or the loop goes on until the input ends. The disk is handed
  from run to run.
-/

namespace VirtualShell.Program

/-- What a run leaves behind: the code it ends with, what it put on the screen, and the
disk. -/
structure Outcome where
  code : Nat
  screen : Text
  disk : DiskEntry

/-- The options of the program, as they are explained. -/
def usage : Text := Text.join "\n" [
  "usage: [-h] [-c COMMAND] [-u USER] [--state-dir STATE_DIR] [--no-color] " ++
    "[--log-level LOG_LEVEL]",
  "",
  "TreeShell Terminal Emulator",
  ""]

/-- The settings that the arguments ask for, given the name of whoever is logged in. -/
def settings (a : Arguments) (login : Text) : Settings :=
  { user := a.user.getD (some login), colors := a.colors }

/-- The store that the arguments ask for. -/
def store (a : Arguments) (disk : DiskEntry) : Store :=
  match a.stateFolder.filter (· ≠ []) with
  | some folder => { backing := .ofFolder folder disk }
  | none => .empty

/-- The disk of a store that is on one. -/
def diskOf? (store : Store) : Option DiskEntry :=
  match store.backing with
  | .folder _ disk => some disk
  | _ => none

/-- The session that a run begins with. -/
def start (a : Arguments) (login : Text) (disk : DiskEntry) (now : Float) (draws : Script) :
    Except Fault (Session Scripted) := do
  let v ← Volume.load now (store a disk) Volume.defaultKey
  return Session.start v (settings a login) History.usualLimit now { draws := draws }

/-- Where the address is looked up while there is no connection. -/
def offline : Action Scripted Text := do
  modify (Scripted.note .address)
  throw (.unreachable "offline")

/-- What a run stands in, given how the address is looked up. There is no assistant in it. -/
def surroundings (lookUp : Action Scripted Text) : Surroundings Scripted :=
  { Scripted.surroundings false false {} [] with lookUpAddress := lookUp }

/-- The host of a run. Without an assistant one turn is all there can be. -/
def hostWith (lookUp : Action Scripted Text) : Host Scripted := (surroundings lookUp).host 1

/-- The host of a run without a connection. -/
def host : Host Scripted := hostWith offline

/-- The line that is to be run in place of the loop. -/
def line? (a : Arguments) : Option Text := a.command.filter (· ≠ [])

/-- The folder that the arguments name for the snapshots. -/
def folder? (arguments : List Text) : Option Text :=
  match Arguments.ofTexts arguments with
  | .run a => a.stateFolder.filter (· ≠ [])
  | _ => none

/-- What a run has come to before anything is entered. -/
inductive Beginning where
  /-- It is over. -/
  | over (code : Nat) (screen : Text)
  /-- One line is to be run. -/
  | line (t : Text) (s : Session Scripted)
  /-- The loop is to be entered. -/
  | loop (s : Session Scripted)

/-- The beginning of a run. -/
def beginning (arguments : List Text) (login : Text) (disk : DiskEntry) (now : Float)
    (draws : Script) : Beginning :=
  match Arguments.ofTexts arguments with
  | .wrong => .over 2 []
  | .help => .over 0 usage
  | .run a =>
    if !a.hasLogLevel then .over 1 []
    else match start a login disk now draws with
      | .error _ => .over 1 []
      | .ok s => match line? a with
        | some t => .line t s
        | none => .loop s

/-- What a line that is run in place of the loop puts on the screen. -/
def showLine (host : Host Scripted) (line : Text) : Action (Session Scripted) Text := do
  let output ← Session.run host line
  let s ← get
  return if output = [] then [] else s.display output ++ "\n"

/-- What a session leaves behind. A fault that nobody sees to ends the run with the code
one. -/
def outcome (disk : DiskEntry) : Except Fault Text × Session Scripted → Outcome
  | (.ok screen, s) => ⟨0, screen, (diskOf? s.volume.store).getD disk⟩
  | (.error _, s) => ⟨1, [], (diskOf? s.volume.store).getD disk⟩

/-- A run of the program, given how the address is looked up, with all that arrives in it. -/
def runWith (lookUp : Action Scripted Text) (arguments : List Text) (login : Text)
    (disk : DiskEntry) (now : Float) (draws : Script) (arrivals : List Session.Arrival) : Outcome :=
  match beginning arguments login disk now draws with
  | .over code screen => ⟨code, screen, disk⟩
  | .line t s => outcome disk (showLine (hostWith lookUp) t s)
  | .loop s => outcome disk (Session.converse (hostWith lookUp) arrivals s)

/-- A run of the program without a connection, in which the clock stands still. -/
def run (arguments : List Text) (login : Text) (disk : DiskEntry) (now : Float) (draws : Script)
    (entries : List Session.Entry) : Outcome :=
  runWith offline arguments login disk now draws (entries.map (⟨now, ·⟩))

end VirtualShell.Program
