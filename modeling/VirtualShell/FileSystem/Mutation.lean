import VirtualShell.Tree.Edit
/-
  The changes a file system can be asked for, and what comes of them.

  A change is judged against the tree as it is: `Mutation.verdict` gives the new tree,
  the reason for a refusal, or the verdict that the change touches the protected
  directory. Paths are normalised before anything is decided, so the spelling of a
  path never matters.
-/

namespace VirtualShell

/-- Why a change is refused. -/
inductive Refusal where
  | notFound
  | typeMismatch
  | alreadyExists
  | protectedPath
  | cycle
  | sameParent
  | invalidName
  deriving DecidableEq, Repr

/-- A change of the tree; paths may be spelt in any way. -/
inductive Mutation where
  | write (path content : Text)
  | createFile (parent name content : Text)
  | createDirectory (parent name : Text)
  | delete (path : Text)
  | rename (path newName : Text)
  | move (source newParent : Text)
  | copy (source newParent : Text)
  deriving DecidableEq, Repr

/-- What comes of a change. -/
inductive Verdict where
  /-- The change is made, and this is the new tree. -/
  | accepted (root : Node)
  /-- The change is not made. -/
  | refused (reason : Refusal)
  /-- The change touches the protected directory. -/
  | guarded
  /-- The content of a file has no size. -/
  | unencodable (content : Text)

/-- The directory that no change may touch. -/
def protectedDirectory : Text := "/System"

/-- Whether a normal path is protected. -/
def isProtected (path : Text) : Bool := Path.isWithin path protectedDirectory

namespace Node

/-- The tree with a node added as the last child of the directory that the keys lead to. -/
def addChild (root : Node) (now : Float) (keys : List Text) (name : Text) (child : Node) : Node :=
  root.updateAt keys (withChildren now (Entries.put name child))

/-- The tree without a child of the directory that the keys lead to. -/
def removeChild (root : Node) (now : Float) (keys : List Text) (name : Text) : Node :=
  root.updateAt keys (withChildren now (Entries.erase name))

/-- The child of the directory at a normal path, if there is a directory with one. -/
def childAt (root : Node) (parent name : Text) : Option Node := do
  Entries.get? name (← root.directoryAt parent).children

end Node

namespace Mutation

/-- A node made by `make` under a new name in an existing directory; where none can be
made, the content that stands against it is the outcome. -/
def create (now : Float) (root : Node) (parent name : Text) (make : Text → Except Text Node) :
    Verdict :=
  let parent := Path.normalize parent
  let path := Path.join parent name
  if !Name.isValid name then .refused .invalidName
  else if isProtected path then .guarded
  else match root.lookup parent with
    | none => .refused .notFound
    | some (.file ..) => .refused .typeMismatch
    | some (.directory _ _ _ children) =>
      if Entries.has name children then .refused .alreadyExists
      else match make path with
        | .error content => .unencodable content
        | .ok child => .accepted (root.addChild now (Path.segments parent) name child)

/-- What comes of a change asked for at the instant `now`. -/
def verdict (now : Float) (root : Node) : Mutation → Verdict
  | write path content =>
    let path := Path.normalize path
    if isProtected path then .guarded
    else match root.lookup path with
      | none => .refused .notFound
      | some (.directory ..) => .refused .typeMismatch
      | some (.file ..) => match contentSize? content with
        | none => .unencodable content
        | some size =>
          .accepted (root.updateAt (Path.segments path) (Node.withContent now content size))
  | createFile parent name content =>
    create now root parent name fun path => match Node.newFile? name path now content with
      | some file => .ok file
      | none => .error content
  | createDirectory parent name =>
    create now root parent name fun path => .ok (Node.newDirectory name path now)
  | delete path =>
    let path := Path.normalize path
    let (parent, name) := Path.split path
    if isProtected path then .guarded
    else if name = [] then .refused .invalidName
    else match root.childAt parent name with
      | none => .refused .notFound
      | some _ => .accepted (root.removeChild now (Path.segments parent) name)
  | rename path newName =>
    let path := Path.normalize path
    let (parent, name) := Path.split path
    if isProtected path then .guarded
    else if name = [] || !Name.isValid newName then .refused .invalidName
    else match root.childAt parent name with
      | none => .refused .notFound
      | some node =>
        if (root.childAt parent newName).isSome then .refused .alreadyExists
        else
          let renamed := (node.withName newName).relabel parent (some now)
          .accepted (root.updateAt (Path.segments parent) (Node.withChildren now fun children =>
            Entries.put newName renamed (Entries.erase name children)))
  | move source newParent =>
    let source := Path.normalize source
    let newParent := Path.normalize newParent
    if isProtected source || isProtected newParent then .guarded
    else match root.lookup source, root.lookup newParent with
      | none, _ => .refused .notFound
      | _, none => .refused .notFound
      | some _, some (.file ..) => .refused .typeMismatch
      | some _, some (.directory _ _ _ children) =>
        let (oldParent, name) := Path.split source
        if Path.isWithin newParent source then .refused .cycle
        else if oldParent = newParent then .refused .sameParent
        else if Entries.has name children then .refused .alreadyExists
        else match root.childAt oldParent name with
          | none => .refused .notFound
          | some node =>
            let without := root.removeChild now (Path.segments oldParent) name
            let moved := node.relabel newParent (some now)
            .accepted (without.addChild now (Path.segments newParent) name moved)
  | copy source newParent =>
    let source := Path.normalize source
    let newParent := Path.normalize newParent
    if isProtected newParent then .guarded
    else match root.lookup source, root.lookup newParent with
      | none, _ => .refused .notFound
      | _, none => .refused .notFound
      | some _, some (.file ..) => .refused .typeMismatch
      | some node, some (.directory _ _ _ children) =>
        if Path.isWithin newParent source then .refused .cycle
        else
          let newName := Name.forCopy node.name (Entries.keys children)
          let duplicate := (node.withName newName).relabel newParent (some now)
          .accepted (root.addChild now (Path.segments newParent) newName duplicate)

end Mutation

end VirtualShell
