import VirtualShell.Reply
import VirtualShell.Session.Run
/-
  The actions that a session serves.

  The file explorer and the notes app change the tree, the system resets or damages it, and
  the terminal runs a line. The values in a payload may be of any kind. One that is no
  text goes as far as a text in its place would go: the call is judged with a text that
  stands in for it, a refusal stays a refusal, and where the change would be made the call
  is cut short instead.
-/

namespace VirtualShell.Session

variable {ω : Type}

/-- What a value is as the name of a node. -/
inductive NameValue where
  /-- A text. What is empty, and a list or an object with a slash in it, counts as the
  empty text, which is no valid name. -/
  | name (t : Text)
  /-- A list or an object: it is taken for a name until it is looked up. -/
  | collection
  /-- Something in which one cannot look for a slash. -/
  | scalar

/-- What a value is as the name of a node. -/
def NameValue.ofJson (v : Json) : NameValue :=
  match v with
  | .text t => .name t
  | .array items =>
    if !v.isSet || items.any (Route.namesAction "/") then .name [] else .collection
  | .object fields => if !v.isSet || Entries.has "/" fields then .name [] else .collection
  | _ => if v.isSet then .scalar else .name []

/-- A text that stands in for a collection as a name. -/
def standIn : Text := "?"

/-- The text that a value is, where nothing else will do. -/
def needText : Json → Action (Session ω) Text
  | .text t => return t
  | _ => throw .wrongKind

/-- A change judged: it is settled if it is refused, and cut short otherwise. -/
def refuseOr (fault : Fault) (m : Mutation) : Action (Session ω) Unit := do
  let s ← get
  match m.verdict s.now s.volume.root with
  | .accepted _ => throw fault
  | .unencodable _ => throw fault
  | verdict => discard <| onVolume (Volume.settle verdict)

/-- A change under a name that is a collection, judged with a name that stands in for it.
That the name is taken could not be found out either. -/
def refuseCollection (mutation : Text → Mutation) : Action (Session ω) Unit := do
  let s ← get
  match (mutation standIn).verdict s.now s.volume.root with
  | .refused .alreadyExists => throw .wrongKind
  | _ => refuseOr .wrongKind (mutation standIn)

/-- Something created under a name given as a value. The name is looked at first. -/
def createNamed (name : Json) (mutation : Text → Mutation) : Action (Session ω) Unit :=
  match NameValue.ofJson name with
  | .name t => do discard <| change (mutation t)
  | .scalar => throw .wrongKind
  | .collection => refuseCollection mutation

/-- A node renamed to a name given as a value. The name is looked at only where there is
a node that may have another one. -/
def renameTo (path : Text) (newName : Json) : Action (Session ω) Unit :=
  match NameValue.ofJson newName with
  | .name t => do discard <| change (.rename path t)
  | .scalar =>
    if isProtected (Path.normalize path) || Path.normalize path = Path.root then do
      discard <| change (.rename path [])
    else throw .wrongKind
  | .collection => refuseCollection (Mutation.rename path)

/-- A file created from values. -/
def createFile (parent name content : Json) : Action (Session ω) Unit := do
  let parent ← needText parent
  match content with
  | .text t => createNamed name fun name => .createFile parent name t
  | _ => match NameValue.ofJson name with
    | .name t => refuseOr .noSuchMember (.createFile parent t [])
    | _ => createNamed name fun name => .createFile parent name []

/-- The path of the directory that notes are put into. -/
def notesDirectory : Text := "/Documents"

/-- The fields of a payload. -/
def payloadFields : Json → Action (Session ω) (Entries Json)
  | .object fields => return fields
  | _ => throw .noSuchMember

/-- Somebody who serves an action of an app with the fields of its payload. -/
def appAction (appId action : Text) (serve : Entries Json → Action (Session ω) Unit) :
    Subscription (Session ω) :=
  ⟨some appId, action, fun payload => do serve (← payloadFields payload)⟩

/-- Somebody who serves an action of the system. -/
def systemAction (action : Text) (serve : Action (Session ω) Unit) : Subscription (Session ω) :=
  ⟨none, action, fun _ => serve⟩

/-- A field of a payload; one that is missing is an empty text. -/
def field (key : Text) (fields : Entries Json) : Json := Json.fieldOr (.text []) key fields

/-- A field that names a directory; one that is missing is the root. -/
def directoryField (key : Text) (fields : Entries Json) : Json :=
  Json.fieldOr (.text Path.root) key fields

/-- The actions that change the tree. -/
def volumeActions (source : Source ω) : Bus (Session ω) :=
  let explorer := appAction "file-explorer"
  let transfer (mutation : Text → Text → Mutation) (fields : Entries Json) :
      Action (Session ω) Unit := do
    let source ← needText (field "sourcePath" fields)
    let destination ← needText (field "destinationPath" fields)
    discard <| change (mutation source destination)
  [explorer "createFile" fun fields =>
      createFile (directoryField "parentPath" fields) (field "fileName" fields)
        (field "content" fields),
    explorer "createDirectory" fun fields => do
      let parent ← needText (directoryField "parentPath" fields)
      createNamed (field "dirName" fields) (Mutation.createDirectory parent),
    explorer "renameNode" fun fields => do
      let path ← needText (field "path" fields)
      renameTo path (field "newName" fields),
    explorer "moveNode" (transfer Mutation.move),
    explorer "copyNode" (transfer Mutation.copy),
    explorer "deleteNode" fun fields => do
      let path ← needText (field "path" fields)
      discard <| change (.delete path),
    appAction "prod-notes" "createNote" fun fields =>
      createFile (.text notesDirectory)
        (.text ((field "title" fields).shown ++ ".txt")) (field "content" fields),
    systemAction "factoryReset" reset,
    systemAction "corruptFileSystem" (corrupt source)]

/-- The action that runs a line, in the way given. -/
def terminalAction (run : Text → Action (Session ω) Unit) : Subscription (Session ω) :=
  appAction "terminal" "executeTerminalCommand" fun fields =>
    match field "command" fields with
    | .text line => run line
    | v => if v.isSet then throw .noSuchMember else return

end VirtualShell.Session
