import Std.Time.DateTime.Timestamp
import VirtualShell.CommandLine.Program
/-
  The program at a terminal.

  What a line does is decided elsewhere. Here the clock is read, a line is taken from the
  input at each prompt, the waits that the line asked for are made, and what it puts on
  the screen is printed. The file of the snapshot is read at the start and written
  after every line, and a disk that refuses it is not an error.
-/

namespace VirtualShell.Terminal

/-- The seconds since the start of 1970. -/
def clock : IO Float := do
  let now ← Std.Time.Timestamp.now
  return Float.ofInt now.toMillisecondsSinceUnixEpoch.val / 1000.0

/-- The name of whoever is logged in. -/
def login : IO Text := do
  let names ← ["LOGNAME", "USER", "LNAME", "USERNAME"].filterMapM fun name => IO.getEnv name
  return Text.ofString ((names.find? (· ≠ "")).getD "user")

/-- The file that the snapshot is kept in. -/
def snapshotFile (folder : Text) : Text := folder ++ "/" ++ Volume.defaultKey ++ ".json"

/-- The disk with nothing but the snapshot in the folder, as far as there is one. -/
def readDisk (folder : Text) : IO DiskEntry := do
  let bytes ← IO.FS.readBinFile (snapshotFile folder).toString
  let empty : DiskEntry := .folder []
  match DiskPath.steps? folder, DiskPath.steps? (snapshotFile folder) with
  | .ok path, .ok file =>
    let (_, disk) := empty.makeFolders true path
    match disk.putBytes file bytes.toList with
    | .ok disk => return disk
    | .error _ => return empty
  | _, _ => return empty

/-- The snapshot of the disk written into the folder. -/
def writeDisk (folder : Text) (disk : DiskEntry) : IO Unit := do
  match DiskPath.steps? (snapshotFile folder) with
  | .ok file => match disk.bytesAt file with
    | .ok bytes =>
      let draft := (snapshotFile folder ++ ".tmp").toString
      IO.FS.createDirAll folder.toString
      IO.FS.writeBinFile draft ⟨bytes.toArray⟩
      IO.FS.rename draft (snapshotFile folder).toString
    | .error _ => return
  | .error _ => return

/-- The milliseconds that a request asks to wait. -/
def wait : Request → UInt32
  | .sleep (.integer n) => UInt32.ofNat (n.toNat * 1000)
  | .sleep (.real x) => (x * 1000.0).toUInt32
  | _ => 0

/-- What a session asked for is seen to, and then forgotten. -/
def settle (folder : Option Text) (s : Session Scripted) : IO (Session Scripted) := do
  for request in s.outside.record do IO.sleep (wait request)
  match folder, Program.diskOf? s.volume.store with
  | some folder, some disk => try writeDisk folder disk catch _ => pure ()
  | _, _ => pure ()
  return { s with outside := { s.outside with record := [] } }

/-- A text put on the screen. -/
def put (t : Text) : IO Unit := do
  let output ← IO.getStdout
  output.putStr t.toString
  output.flush

/-- One line of the input without its end, unless the input is at its end. -/
def nextLine? : IO (Option Text) := do
  let line ← (← IO.getStdin).getLine
  if line.isEmpty then return none
  let t := Text.ofString line
  return some (if line.endsWith "\n" then t.dropLast else t)

/-- The loop, from a prompt on. -/
partial def converse (folder : Option Text) (s : Session Scripted) : IO UInt32 := do
  match Session.showPrompt s with
  | (.error _, _) => return 1
  | (.ok prompt, s) =>
    put prompt
    match ← nextLine? with
    | none =>
      put ("\n" ++ Session.farewell)
      return 0
    | some line => match Session.answer Program.host ⟨← clock, .line line⟩ s with
      | (.error _, _) => return 1
      | (.ok (shown, goesOn), s) =>
        let s ← settle folder s
        put shown
        if goesOn then converse folder s
        else
          put Session.farewell
          return 0

end VirtualShell.Terminal

/-- The program: it ends with the code of its run. -/
def main (arguments : List String) : IO UInt32 := do
  let arguments := arguments.map VirtualShell.Text.ofString
  let folder := VirtualShell.Program.folder? arguments
  let disk : VirtualShell.DiskEntry ← match folder with
    | some folder => try VirtualShell.Terminal.readDisk folder catch _ => pure (.folder [])
    | none => pure (.folder [])
  let draws : VirtualShell.Script := { seed := ← IO.rand 0 (VirtualShell.Script.period - 1) }
  let login ← VirtualShell.Terminal.login
  let now ← VirtualShell.Terminal.clock
  match VirtualShell.Program.beginning arguments login disk now draws with
  | .over code screen =>
    VirtualShell.Terminal.put screen
    return UInt32.ofNat code
  | .line t s => match VirtualShell.Program.showLine VirtualShell.Program.host t s with
    | (.error _, _) => return 1
    | (.ok screen, s) =>
      discard <| VirtualShell.Terminal.settle folder s
      VirtualShell.Terminal.put screen
      return 0
  | .loop s =>
    VirtualShell.Terminal.put s.opening
    VirtualShell.Terminal.converse folder s
