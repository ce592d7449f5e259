import VirtualShell.Tree.Node
/-
  Edits of a tree.

  `updateAt` changes the one node that the keys lead to and leaves every other
  node as it was; the rest are the changes it is used with. A subtree that gets a new
  place or a new name is relabelled, so that the paths below it are right again.
-/

namespace VirtualShell.Node

/-- The tree with the node reached along the keys changed by `f`. -/
def updateAt : List Text → (Node → Node) → Node → Node
  | [], f, node => f node
  | _ :: _, _, file name path mtime content size => file name path mtime content size
  | key :: keys, f, directory name path mtime children =>
    directory name path mtime (Entries.modify key (updateAt keys f) children)

/-- The node changed at the instant `now`. -/
def touch (now : Float) : Node → Node
  | file name path _ content size => file name path now content size
  | directory name path _ children => directory name path now children

/-- The node under another name. -/
def withName (name : Text) : Node → Node
  | file _ path mtime content size => file name path mtime content size
  | directory _ path mtime children => directory name path mtime children

/-- The file with other content, of the size given, as of `now`. -/
def withContent (now : Float) (content : Text) (size : Nat) : Node → Node
  | file name path _ _ _ => file name path now content size
  | directory name path mtime children => directory name path mtime children

/-- The directory with its children changed by `f`, as of `now`. -/
def withChildren (now : Float) (f : List (Text × Node) → List (Text × Node)) : Node → Node
  | file name path mtime content size => file name path mtime content size
  | directory name path _ children => directory name path now (f children)

mutual

/-- The node with its path, and the paths below it, made to fit the path of the
directory it is in. With a time given, everything counts as changed then. -/
def relabel (parent : Text) (time : Option Float) : Node → Node
  | file name _ mtime content size =>
    file name (Path.join parent name) (time.getD mtime) content size
  | directory name _ mtime children =>
    let path := Path.join parent name
    directory name path (time.getD mtime) (relabelAll path time children)

/-- The same for all entries of the directory with the given path. -/
def relabelAll (parent : Text) (time : Option Float) : List (Text × Node) → List (Text × Node)
  | [] => []
  | (key, child) :: rest => (key, relabel parent time child) :: relabelAll parent time rest

end

end VirtualShell.Node
