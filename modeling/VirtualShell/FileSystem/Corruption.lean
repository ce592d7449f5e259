import VirtualShell.FileSystem.Volume
import VirtualShell.Random
/-
  Random damage to a tree.

  Each child of a visited directory is scrambled with one chance in two and dropped
  with one chance in five, unless its key is that of the system directory or the
  desktop. A scrambled file gets a new name and worthless content, a scrambled
  directory a new name and is visited itself. A name that a sibling already has is
  drawn again until it is free; how often is bounded, so the outcome may be that the
  search was given up. The result is a proper tree: its paths are made to fit.
-/

namespace VirtualShell

namespace Corruption

variable {σ : Type}

/-- Draws that may be given up. -/
abbrev Draw (σ α : Type) := StateT σ Option α

/-- The letters and digits that random names are made of. -/
def alphabet : Text := "abcdefghijklmnopqrstuvwxyz0123456789"

/-- A random name of the given length. -/
def token (source : Source σ) : Nat → σ → Text × σ
  | 0, s => ([], s)
  | n + 1, s =>
    let (i, s) := source.pick alphabet.length s
    let (rest, s) := token source n s
    (alphabet.getD i 'a' :: rest, s)

/-- A random name of the usual length. -/
def shortToken (source : Source σ) : Draw σ Text := fun s => some (token source 5 s)

/-- Whether a number drawn lies below `chance`. -/
def happens (source : Source σ) (chance : Float) : Draw σ Bool := fun s =>
  let (x, s) := source.unit s
  some (x < chance, s)

/-- The ending that a scrambled node of this kind has. -/
def ending (node : Node) : Text := if node.isDirectory then [] else ".dat"

/-- The name, or if it is taken the first free one of those drawn in its place. -/
def freeName (source : Source σ) (taken : List (Text × Node)) (ending : Text) :
    Nat → Text → Draw σ Text
  | 0, name => if Entries.has name taken then fun _ => none else pure name
  | attempts + 1, name =>
    if Entries.has name taken then do
      freeName source taken ending attempts ((← shortToken source) ++ ending)
    else pure name

/-- The keys that are never dropped. -/
def isSpared (key : Text) : Bool := key = "System" || key = "Desktop"

mutual

/-- A scrambled node: another name, and other content or a visit. -/
def scramble (source : Source σ) (attempts : Nat) (now : Float) : Node → Draw σ Node
  | .file _ path _ _ _ => do
    let name := (← shortToken source) ++ ".dat"
    let content := "CORRUPTED_DATA_" ++ (← shortToken source)
    return .file name path now content ((contentSize? content).getD 0)
  | .directory _ path mtime children => do
    let name ← shortToken source
    return .directory name path mtime (← visit source attempts now children [])

/-- The children of a visited directory, after those that have survived so far. -/
def visit (source : Source σ) (attempts : Nat) (now : Float) :
    List (Text × Node) → List (Text × Node) → Draw σ (List (Text × Node))
  | [], survivors => return survivors
  | (key, child) :: rest, survivors => do
    let node ← if ← happens source 0.5 then scramble source attempts now child else pure child
    let dropped ← happens source 0.2
    if dropped && !isSpared key then visit source attempts now rest survivors
    else
      let name ← freeName source survivors (ending node) attempts node.name
      visit source attempts now rest (survivors ++ [(name, node.withName name)])

end

/-- The damaged tree; none if the search for a free name was given up. -/
def damage (source : Source σ) (attempts : Nat) (now : Float) (root : Node) : Draw σ Node :=
  match root with
  | .file .. => pure root
  | .directory name path mtime children => do
    let survivors ← visit source attempts now children []
    return (Node.directory name path mtime survivors).relabel Path.root none

end Corruption

namespace Volume

variable {σ : Type}

/-- The volume with its tree damaged at the instant `now`, marked so and written, if no
search for a free name takes more than the given attempts. -/
def corruptWithin (attempts : Nat) (source : Source σ) (now : Float) :
    Action (Volume × σ) Unit := do
  let (v, s) ← get
  match Corruption.damage source attempts now v.root s with
  | none => throw .unfinished
  | some (root, s) =>
    set (v, s)
    Action.onPart (fun p : Volume × σ => p.1) (fun v p => (v, p.2)) (replaceRoot root true)

/-- The same, with as many attempts at a free name as a scripted source has states. -/
def corrupt (source : Source σ) (now : Float) : Action (Volume × σ) Unit :=
  corruptWithin Script.period source now

end Volume

end VirtualShell
