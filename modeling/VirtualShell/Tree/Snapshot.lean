import VirtualShell.Tree.Draft
import VirtualShell.Json.Reader
import VirtualShell.Json.Writer
/-
  Snapshots: the stored form of a tree.

  A snapshot is one JSON object with the tree, the mark that says whether the tree
  was damaged, and a version. Writing and reading go through `Draft`; sizes are not
  taken from the snapshot but worked out again, and a node without a time counts as
  changed when the snapshot is read.
-/

namespace VirtualShell

/-- A tree, and whether it was damaged. -/
structure Snapshot where
  root : Node
  corrupted : Bool

/-- Why a text is no snapshot. -/
inductive SnapshotFault where
  /-- The text is not JSON. -/
  | unreadable (fault : JsonFault)
  /-- Something that has to be an object is of another kind. -/
  | notAnObject
  /-- A field is missing. -/
  | missing (field : Text)
  /-- The children of a directory are not an object. -/
  | childrenNotAnObject
  /-- The type of a node is neither file nor directory. -/
  | unknownType (type : Json)
  /-- The content of a file is of another kind than text. -/
  | contentNotText (kind : Text)
  /-- The content of a file has no size. -/
  | contentNotEncodable
  /-- A time is text that spells no number. -/
  | unreadableTime
  /-- A time is of a kind that is no number. -/
  | timeNotANumber
  /-- A time is an integer beyond all floating-point numbers. -/
  | timeTooLarge
  /-- The nodes do not fit together. -/
  | inconsistent (fault : DraftFault)

/-- The fault in words. -/
def SnapshotFault.message : SnapshotFault → Text
  | unreadable _ => "not JSON"
  | notAnObject => "not an object"
  | missing field => field.quoted
  | childrenNotAnObject => "children must be an object"
  | unknownType type => "Unknown node type: " ++ type.shown
  | contentNotText kind => "file content must be a string, got " ++ kind
  | contentNotEncodable => "surrogates not allowed"
  | unreadableTime => "could not convert string to float"
  | timeNotANumber => "a time must be a string or a real number"
  | timeTooLarge => "int too large to convert to float"
  | inconsistent fault => fault.message

/-- Whether the text is JSON, but of a shape that no snapshot has. -/
def SnapshotFault.isShape : SnapshotFault → Bool
  | notAnObject => true
  | missing _ => true
  | childrenNotAnObject => true
  | contentNotText _ => true
  | timeNotANumber => true
  | _ => false

/-- The fault as reported to whoever gave the text. -/
def SnapshotFault.report (fault : SnapshotFault) : Text :=
  if fault.isShape then "Malformed snapshot: " ++ fault.message else fault.message

namespace Snapshot

/-- The version that snapshots are marked with. -/
def version : Int := 1

mutual

/-- A node as JSON. -/
def encodeNode : Node → Json
  | .file name path mtime content size => .object [
      ("type", .text "file"), ("name", .text name), ("path", .text path),
      ("size", .number (.integer size)), ("mtime", .number (.real mtime)),
      ("content", .text content)]
  | .directory name path mtime children => .object [
      ("type", .text "directory"), ("name", .text name), ("path", .text path),
      ("size", .number (.integer 0)), ("mtime", .number (.real mtime)),
      ("children", .object (encodeAll children))]

/-- The children of a directory as the fields of an object. -/
def encodeAll : List (Text × Node) → List (Text × Json)
  | [] => []
  | (key, child) :: rest => (key, encodeNode child) :: encodeAll rest

end

/-- A snapshot as JSON. -/
def encode (s : Snapshot) : Json :=
  .object [("version", .number (.integer version)), ("corrupted", .boolean s.corrupted),
    ("root", encodeNode s.root)]

/-- A snapshot as text. -/
def write (s : Snapshot) : Text := s.encode.write

/-- A field that has to be there. -/
def require (field : Text) (fields : Entries Json) : Except SnapshotFault Json :=
  match fields.get? field with
  | some v => .ok v
  | none => .error (.missing field)

/-- The time that a node was changed; no time means `now`. -/
def decodeTime (now : Float) : Json → Except SnapshotFault Float
  | .null => .ok now
  | .boolean b => .ok (if b then 1.0 else 0.0)
  | .number n => match n.toFloat? with
    | some x => .ok x
    | none => .error .timeTooLarge
  | .text t => match readLooseFloat t with
    | some x => .ok x
    | none => .error .unreadableTime
  | .array _ => .error .timeNotANumber
  | .object _ => .error .timeNotANumber

/-- A file, given its fields. -/
def decodeFile (mtime : Float) (fields : Entries Json) : Except SnapshotFault Draft := do
  match Json.fieldOr (.text []) "content" fields with
  | .text content =>
    let name ← require "name" fields
    let path ← require "path" fields
    match contentSize? content with
    | some size => return .file name path mtime content size
    | none => .error .contentNotEncodable
  | other => .error (.contentNotText other.kindName)

mutual

/-- A node read from JSON. The type is looked at first, then the time, then the
content or the children, and the name and the path last. -/
def decodeNode (now : Float) : Json → Except SnapshotFault Draft
  | .object fields => do
    let type ← require "type" fields
    let mtime ← decodeTime now (Json.fieldOr .null "mtime" fields)
    match type with
    | .text t =>
      if t = "file" then decodeFile mtime fields
      else if t = "directory" then
        let children ← decodeChildren now fields
        let name ← require "name" fields
        let path ← require "path" fields
        return .directory name path mtime children
      else .error (.unknownType type)
    | _ => .error (.unknownType type)
  | _ => .error .notAnObject

/-- The children of a directory, given its fields. -/
def decodeChildren (now : Float) : List (Text × Json) → Except SnapshotFault (List (Text × Draft))
  | [] => .error (.missing "children")
  | (key, v) :: rest =>
    if key = "children" then decodeMapping now v else decodeChildren now rest

/-- Nodes under keys. -/
def decodeMapping (now : Float) : Json → Except SnapshotFault (List (Text × Draft))
  | .object fields => decodeEach now fields
  | _ => .error .childrenNotAnObject

/-- The nodes under several keys, one after another. -/
def decodeEach (now : Float) : List (Text × Json) → Except SnapshotFault (List (Text × Draft))
  | [] => .ok []
  | (key, v) :: rest => do
    let child ← decodeNode now v
    return (key, child) :: (← decodeEach now rest)

end

/-- A snapshot read from JSON, with a tree that has been checked. -/
def decode (now : Float) : Json → Except SnapshotFault Snapshot
  | .object fields => do
    let draft ← decodeNode now (← require "root" fields)
    match draft.check with
    | .error fault => .error (.inconsistent fault)
    | .ok () =>
      return ⟨draft.place [] Path.root, (Json.fieldOr (.boolean false) "corrupted" fields).isSet⟩
  | _ => .error .notAnObject

/-- A snapshot read from text at the instant `now`. -/
def read (now : Float) (t : Text) : Except SnapshotFault Snapshot :=
  match Json.read t with
  | .error fault => .error (.unreadable fault)
  | .ok v => decode now v

end Snapshot

end VirtualShell
