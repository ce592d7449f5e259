import VirtualShell.Builtin.Basic
import VirtualShell.Text.Case
/-
  Commands on the tree: moving about in it, listing it and changing it.
-/

namespace VirtualShell.Builtin

variable {ω : Type}

/-- Prints the working directory. -/
def pwd : Builtin ω where
  name := "pwd"
  page := { description := "Print working directory." }
  run _ _ _ := return (← get).cwd

/-- Goes to a directory, or to the root. -/
def cd : Builtin ω where
  name := "cd"
  page := {
    description := "Change the current directory."
    usage := "cd [PATH]"
    examples := [
      "cd /Documents          # Go to /Documents",
      "cd ..                  # Go to parent directory",
      "cd                     # Go to the root"] }
  run _ args _ := do
    let s ← get
    let path := args.headD Path.root
    let target := s.resolve path
    match s.volume.directory? target with
    | none => return Markup.error ("cd: no such file or directory: " ++ path)
    | some _ =>
      set { s with cwd := target }
      return []

/-- The names in a directory, sorted, those of directories in their colour. -/
def listing (children : List (Text × Node)) : List Text :=
  (Text.sorted (Entries.keys children)).map fun name =>
    match Entries.get? name children with
    | some (.directory ..) => Markup.directory name
    | _ => name

/-- Lists a directory. -/
def ls : Builtin ω where
  name := "ls"
  page := {
    description := "List directory contents."
    usage := "ls [PATH]"
    examples := [
      "ls                     # List current directory",
      "ls /Documents          # List /Documents",
      "ls | grep txt          # Filter the listing"] }
  run _ args _ := do
    let s ← get
    let path := match args with
      | [] => s.cwd
      | arg :: _ => s.resolve arg
    match s.volume.directory? path with
    | none =>
      return Markup.error ("ls: cannot access '" ++ args.headD "." ++ "': No such file or directory")
    | some d => return Text.join "\n" (listing d.children)

/-- Prints a file, or what the stage before put out. -/
def cat : Builtin ω where
  name := "cat"
  page := {
    description := "Display file contents."
    usage := "cat [FILE]"
    examples := [
      "cat welcome.txt        # Display a file",
      "echo hi | cat          # Display piped input"] }
  run _ args input := do
    let s ← get
    match args with
    | [] => return if input ≠ [] then input else "usage: cat [file]"
    | arg :: _ =>
      match s.volume.node? (s.resolve arg) with
      | some (.file _ _ _ content _) => return content
      | some (.directory ..) => return Markup.error ("cat: " ++ arg ++ ": Is a directory")
      | none => return Markup.error ("cat: " ++ arg ++ ": No such file or directory")

/-- Why something could not be created, in words. -/
def creationFailure : Option Refusal → Text
  | some .notFound => "No such file or directory"
  | some .typeMismatch => "Not a directory"
  | some .invalidName => "Invalid name"
  | some .protectedPath => "Permission denied"
  | _ => "File exists"

/-- Creates what the first argument names, in the way given. -/
def create (command kind : Text) (mutation : Text → Text → Mutation) (args : List Text) :
    Action (Session ω) Text := do
  match args with
  | [] => return "usage: " ++ command ++ " [" ++ kind ++ "_name]"
  | arg :: _ =>
    let (parent, name) := Path.split ((← get).resolve arg)
    if ← Session.change (mutation parent name) then return []
    let reason := creationFailure (← get).volume.lastError
    return Markup.error
      (command ++ ": cannot create " ++ kind ++ " '" ++ arg ++ "': " ++ reason)

/-- Creates a directory. -/
def mkdir : Builtin ω where
  name := "mkdir"
  page := {
    description := "Create a directory."
    usage := "mkdir DIRECTORY"
    examples := [
      "mkdir projects         # Create ./projects",
      "mkdir /Desktop/tmp     # Create with absolute path"] }
  run _ args _ := create "mkdir" "directory" Mutation.createDirectory args

/-- Creates an empty file. -/
def touch : Builtin ω where
  name := "touch"
  page := {
    description := "Create an empty file."
    usage := "touch FILE"
    examples := ["touch notes.txt        # Create ./notes.txt"] }
  run _ args _ := create "touch" "file" (fun parent name => .createFile parent name []) args

/-- Removes a file or a directory with all in it. -/
def rm : Builtin ω where
  name := "rm"
  page := {
    description := "Remove a file or directory (directories are removed with their contents)."
    usage := "rm PATH"
    examples := [
      "rm old.txt             # Remove a file",
      "rm /Downloads/stuff    # Remove a whole directory"] }
  run _ args _ := do
    match args with
    | [] => return "usage: rm [file_or_directory]"
    | arg :: _ =>
      if ← Session.change (.delete ((← get).resolve arg)) then return []
      return Markup.error ("rm: cannot remove '" ++ arg ++ "': No such file or directory")

/-- Does something with a source and a destination, in the way given. -/
def transfer (command verb : Text) (mutation : Text → Text → Mutation) (args : List Text) :
    Action (Session ω) Text := do
  match args with
  | source :: destination :: _ =>
    let s ← get
    if ← Session.change (mutation (s.resolve source) (s.resolve destination)) then return []
    return Markup.error
      (command ++ ": failed to " ++ verb ++ " '" ++ source ++ "' to '" ++ destination ++ "'")
  | _ => return "usage: " ++ command ++ " [source] [destination]"

/-- Moves a file or a directory into another directory. -/
def mv : Builtin ω where
  name := "mv"
  page := {
    description := "Move a file or directory into another directory."
    usage := "mv SOURCE DIRECTORY"
    examples := ["mv notes.txt /Desktop  # Move notes.txt onto the desktop"] }
  run _ args _ := transfer "mv" "move" Mutation.move args

/-- Copies a file or a directory into a directory. -/
def cp : Builtin ω where
  name := "cp"
  page := {
    description := "Copy a file or directory into another directory."
    usage := "cp SOURCE DIRECTORY"
    examples := [
      "cp welcome.txt .       # Creates \"welcome (copy).txt\"",
      "cp /Documents /Desktop # Copy a whole directory"] }
  run _ args _ := transfer "cp" "copy" Mutation.copy args

/-- The extensions of files that the text editor opens. -/
def textExtensions : List Text := ["txt", "md", "js", "ts", "json", "html", "css"]

/-- The extensions of files that the photo viewer opens. -/
def imageExtensions : List Text := ["jpg", "jpeg", "png", "gif"]

/-- The part of a name after its last dot, in lower case; without a dot, all of it. -/
def extension (name : Text) : Text :=
  match name.cutLast '.' with
  | some (_, ending) => ending.lower
  | none => name.lower

/-- The app that opens files with an extension. -/
def appFor? (extension : Text) : Option Text :=
  if textExtensions.contains extension then some "text-editor"
  else if imageExtensions.contains extension then some "photo-viewer"
  else none

/-- The message that opens an app. -/
def openApp (appId : Text) : Json :=
  .object [("action", .text "openApp"), ("appId", .text appId)]

/-- The message that opens something in an app, with its path under the key given. -/
def openInApp (appId key path : Text) : Json :=
  .object [("action", .text "openApp"), ("appId", .text appId),
    ("data", .object [(key, .text path)])]

/-- Opens a directory in the explorer, a file in the app for it, or an app. -/
def openAny : Builtin ω where
  name := "open"
  page := {
    description := "Open an application, a directory or a file."
    usage := "open APP_ID|PATH"
    examples := [
      "open /Documents        # Open the file explorer there",
      "open welcome.txt       # Open in the text editor",
      "open settings          # Launch an app by id"] }
  run host args _ := do
    let s ← get
    match args with
    | [] => return "usage: open [app_id | file_path]"
    | arg :: _ =>
      match s.volume.node? (s.resolve arg) with
      | none =>
        discard <| host.bus.publish (openApp arg)
        return []
      | some (.directory _ path ..) =>
        discard <| host.bus.publish (openInApp "file-explorer" "path" path)
        return []
      | some (.file name path ..) =>
        match appFor? (extension name) with
        | none =>
          return Markup.error ("open: File type \"." ++ extension name ++ "\" is not supported.")
        | some appId =>
          discard <| host.bus.publish (openInApp appId "filePath" path)
          return []

end VirtualShell.Builtin
