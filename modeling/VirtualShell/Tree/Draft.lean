import VirtualShell.Tree.Edit
import VirtualShell.Json.Shown
/-
  Trees that nobody has checked yet.

  A draft is what a stored snapshot spells out. Its names and paths are whatever
  values the snapshot had there, and need not fit the keys under which the nodes
  are stored. `check` accepts a draft exactly when they do, looking at each
  directory before what lies in it; `place` then makes the tree from the keys alone,
  which on an accepted draft is what the draft says.
-/

namespace VirtualShell

/-- A tree with unchecked names and paths. -/
inductive Draft where
  | file (name path : Json) (mtime : Float) (content : Text) (size : Nat)
  | directory (name path : Json) (mtime : Float) (children : List (Text × Draft))

/-- What is wrong with a draft. -/
inductive DraftFault where
  /-- The root is no directory without a name at the root path. -/
  | badRoot
  /-- A child whose name is not its key, or whose key is no name. -/
  | badChildName (key directory : Text)
  /-- A child whose path does not fit the directory it is in. -/
  | wrongPath (path : Json) (directory : Text)

/-- The fault in words. -/
def DraftFault.message : DraftFault → Text
  | badRoot => "root must be a directory named '' at '/'"
  | badChildName key directory => "bad child name " ++ key.quoted ++ " in " ++ directory
  | wrongPath path directory => "inconsistent path " ++ path.quoted ++ " under " ++ directory

namespace Draft

/-- The name that a draft gives itself. -/
def name : Draft → Json
  | file name .. => name
  | directory name .. => name

/-- The path that a draft gives itself. -/
def path : Draft → Json
  | file _ path .. => path
  | directory _ path .. => path

/-- Whether a value is a given text. -/
def isLabel (label : Text) : Json → Bool
  | .text t => t = label
  | _ => false

/-- Whether every child of the directory with the given path is labelled with its
key and the path that fits; the first one that is not decides the fault. -/
def checkLabels (parent : Text) : List (Text × Draft) → Except DraftFault Unit
  | [] => .ok ()
  | (key, child) :: rest =>
    if !isLabel key child.name || !Name.isValid key then .error (.badChildName key parent)
    else if !isLabel (Path.join parent key) child.path then .error (.wrongPath child.path parent)
    else checkLabels parent rest

mutual

/-- Whether all below a draft is labelled as its place in the tree asks, given the
path of the draft itself. -/
def checkBelow (path : Text) : Draft → Except DraftFault Unit
  | file .. => .ok ()
  | directory _ _ _ children => do
    checkLabels path children
    checkEach path children

/-- The same for each child of the directory with the given path. -/
def checkEach (parent : Text) : List (Text × Draft) → Except DraftFault Unit
  | [] => .ok ()
  | (key, child) :: rest => do
    checkBelow (Path.join parent key) child
    checkEach parent rest

end

/-- Whether a draft is a consistent tree. -/
def check (root : Draft) : Except DraftFault Unit :=
  match root with
  | file .. => .error .badRoot
  | directory name path _ _ =>
    if isLabel Path.root path && isLabel [] name then checkBelow Path.root root
    else .error .badRoot

mutual

/-- The tree that a draft describes when it is called `name` and stands at `path`. -/
def place (name path : Text) : Draft → Node
  | file _ _ mtime content size => .file name path mtime content size
  | directory _ _ mtime children => .directory name path mtime (placeAll path children)

/-- The children of the directory at `parent`, each called by its key. -/
def placeAll (parent : Text) : List (Text × Draft) → List (Text × Node)
  | [] => []
  | (key, child) :: rest =>
    (key, place key (Path.join parent key) child) :: placeAll parent rest

end

end Draft

end VirtualShell
