import VirtualShell.Entries
import VirtualShell.Path
import VirtualShell.Name
import VirtualShell.Text.Utf8
/-
  The tree of files and directories.

  Every node carries its own name, path and time of last change, and a directory
  keeps its children under their names in the order in which they came. That the
  three agree with the place of the node in the tree is not built in: it is what
  every edit has to keep.
-/

namespace VirtualShell

/-- A file or a directory with all below it. -/
inductive Node where
  | file (name path : Text) (mtime : Float) (content : Text) (size : Nat)
  | directory (name path : Text) (mtime : Float) (children : List (Text × Node))

/-- Content that starts with this is an image in base 64. -/
def imageMark : Text := "data:image"

/-- The size of content in bytes. Of an image it is what the part after the first
comma decodes to, four letters to three bytes and the last group counted in full. Other
content is counted in UTF-8, and has no size if it holds a surrogate. -/
def contentSize? (content : Text) : Option Nat :=
  if imageMark.isPrefixOf content then
    let payload := match content.cut ',' with
      | some (_, payload) => payload
      | none => content
    some ((payload.length + 3) / 4 * 3)
  else content.utf8Length?

namespace Node

/-- The name of a node; the root has none. -/
def name : Node → Text
  | file name .. => name
  | directory name .. => name

/-- The path of a node. -/
def path : Node → Text
  | file _ path .. => path
  | directory _ path .. => path

/-- The time of the last change. -/
def mtime : Node → Float
  | file _ _ mtime .. => mtime
  | directory _ _ mtime _ => mtime

/-- Whether the node is a directory. -/
def isDirectory : Node → Bool
  | file .. => false
  | directory .. => true

/-- The size in bytes; a directory reports none of its own. -/
def size : Node → Nat
  | file _ _ _ _ size => size
  | directory .. => 0

/-- The content of a file. -/
def content? : Node → Option Text
  | file _ _ _ content _ => some content
  | directory .. => none

/-- The entries of a directory; a file has none. -/
def children : Node → List (Text × Node)
  | file .. => []
  | directory _ _ _ children => children

/-- A file with the given content; none if the content has no size. -/
def newFile? (name path : Text) (mtime : Float) (content : Text) : Option Node :=
  (contentSize? content).map fun size => file name path mtime content size

/-- A directory with nothing in it. -/
def newDirectory (name path : Text) (mtime : Float) : Node := directory name path mtime []

mutual

/-- A node and all below it, each directory before its children. -/
def walk : Node → List Node
  | file name path mtime content size => [file name path mtime content size]
  | directory name path mtime children =>
    directory name path mtime children :: walkAll children

/-- The nodes of several entries, entry by entry. -/
def walkAll : List (Text × Node) → List Node
  | [] => []
  | (_, child) :: rest => walk child ++ walkAll rest

end

/-- The node reached along the given keys. -/
def at? : List Text → Node → Option Node
  | [], node => some node
  | _ :: _, file .. => none
  | key :: keys, directory _ _ _ children => do at? keys (← Entries.get? key children)

/-- The node that a path leads to from the root of the tree. -/
def lookup (root : Node) (path : Text) : Option Node :=
  root.at? (Path.segments (Path.normalize path))

/-- The directory that a path leads to, if it is one. -/
def directoryAt (root : Node) (path : Text) : Option Node :=
  (root.lookup path).filter isDirectory

end Node

end VirtualShell
