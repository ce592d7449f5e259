import VirtualShell.Text.Split
/-
  Paths: absolute, with a slash between segments, and purely a matter of text.

  A path is read as the list of its non-empty segments. Resolving runs over that
  list with a stack: a dot is dropped, two dots take the last segment off, and
  stop at the root. What comes out is normal: the root, or segments that are
  neither empty nor dots, each with one slash in front.
-/

namespace VirtualShell.Path

/-- The path of the root directory. -/
def root : Text := "/"

/-- The non-empty stretches between slashes. -/
def segments (path : Text) : List Text := (path.splitOn '/').filter (· ≠ [])

/-- The path that has the given segments. -/
def render (segments : List Text) : Text := "/" ++ Text.join "/" segments

/-- What one more segment makes of the segments so far, of which the last is on top. -/
def step (stack : List Text) (segment : Text) : List Text :=
  if segment = "." then stack
  else if segment = ".." then stack.tail
  else segment :: stack

/-- Whether the path starts at the root rather than at the working directory. -/
def isAbsolute (path : Text) : Bool := path.head? == some (CodePoint.ofChar '/')

/-- The normal path that `path` means in the working directory `cwd`. -/
def resolve (path cwd : Text) : Text :=
  let start := if isAbsolute path then [] else segments cwd
  render ((segments path).foldl step start.reverse).reverse

/-- The normal path that `path` means as an absolute one. -/
def normalize (path : Text) : Text := resolve ("/" ++ path) root

/-- The path of the directory and the name in it; the root has itself and no name. -/
def split (path : Text) : Text × Text :=
  let path := normalize path
  if path = root then (root, [])
  else match path.cutLast '/' with
    | some (parent, name) => (if parent = [] then root else parent, name)
    | none => (root, path)

/-- The path of the child called `name`. -/
def join (parent name : Text) : Text := (if parent = root then [] else parent) ++ "/" ++ name

/-- Whether `path` is `ancestor` or lies below it. -/
def isWithin (path ancestor : Text) : Bool :=
  ancestor = root || path = ancestor || (ancestor ++ "/").isPrefixOf path

/-- The text after the last slash. -/
def lastSegment (path : Text) : Text :=
  match path.cutLast '/' with
  | some (_, name) => name
  | none => path

end VirtualShell.Path
