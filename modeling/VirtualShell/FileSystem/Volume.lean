import VirtualShell.Fault
import VirtualShell.FileSystem.Mutation
import VirtualShell.Tree.Defaults
/-
  A file system over a store.

  The volume holds the tree, the mark for damage and the reason for the last
  refusal, and writes a snapshot after everything that changes the tree or the mark.
  There is one step that does so, `settle`: what a change comes to is decided
  beforehand by `Mutation.verdict`. A failing store never undoes a change.
-/

namespace VirtualShell

/-- A file system, and the store and key where its snapshots go. -/
structure Volume where
  root : Node
  corrupted : Bool
  lastError : Option Refusal
  store : Store
  key : Text

namespace Volume

/-- The key that is used unless another is given. -/
def defaultKey : Text := "treeshell-filesystem"

/-- The stored form of the volume. -/
def snapshot (v : Volume) : Snapshot := ⟨v.root, v.corrupted⟩

/-- The stored form of the volume as text. -/
def toJson (v : Volume) : Text := v.snapshot.write

/-- Whether a fault of a stored text means that the text is dropped for the starting
tree. A time beyond all numbers is the one that does not. -/
def isForgiven : SnapshotFault → Bool
  | .timeTooLarge => false
  | _ => true

/-- The volume over a store as of `now`: what is stored under the key, or the starting
tree if nothing fit to be used is. -/
def load (now : Float) (store : Store) (key : Text) : Except Fault Volume :=
  let fresh : Volume := ⟨Node.defaultTree now, false, none, store, key⟩
  match store.read key with
  | .error fault => .error (.store fault)
  | .ok none => .ok fresh
  | .ok (some t) => match Snapshot.read now t with
    | .ok s => .ok ⟨s.root, s.corrupted, none, store, key⟩
    | .error fault => if isForgiven fault then .ok fresh else .error (.snapshot fault)

/-- The volume that a given text describes, over a store that is not read. -/
def ofText (now : Float) (t : Text) (store : Store) (key : Text) : Except SnapshotFault Volume := do
  let s ← Snapshot.read now t
  return ⟨s.root, s.corrupted, none, store, key⟩

/-- The snapshot written to the store. -/
def persist : Action Volume Unit := fun v =>
  let (result, store) := v.store.write v.key v.toJson
  (result.mapError .store, { v with store := store })

/-- What comes of a change carried out: whether it was made. -/
def settle (verdict : Verdict) : Action Volume Bool :=
  match verdict with
  | .accepted root => do
    modify fun v => { v with root := root, lastError := none }
    persist
    return true
  | .refused reason => do
    modify fun v => { v with lastError := some reason }
    return false
  | .guarded => do
    modify fun v => { v with corrupted := true }
    persist
    modify fun v => { v with lastError := some .protectedPath }
    return false
  | .unencodable content => throw (.unencodable content)

/-- A change asked for at the instant `now`. -/
def apply (now : Float) (m : Mutation) : Action Volume Bool := do
  settle (m.verdict now (← get).root)

/-- A whole new tree put in, with the mark for damage set as given. -/
def replaceRoot (root : Node) (corrupted : Bool) : Action Volume Unit := do
  modify fun v => { v with root := root, corrupted := corrupted, lastError := none }
  persist

/-- The starting tree put back, as of `now`, without a mark for damage. -/
def reset (now : Float) : Action Volume Unit := replaceRoot (Node.defaultTree now) false

/-- The node at a path. -/
def node? (v : Volume) (path : Text) : Option Node := v.root.lookup path

/-- The directory at a path. -/
def directory? (v : Volume) (path : Text) : Option Node := v.root.directoryAt path

/-- The content of the file at a path. -/
def content? (v : Volume) (path : Text) : Option Text := (v.node? path).bind Node.content?

/-- Whether there is a node at a path. -/
def has (v : Volume) (path : Text) : Bool := (v.node? path).isSome

/-- The names in the directory at a path, sorted. -/
def list? (v : Volume) (path : Text) : Option (List Text) :=
  (v.directory? path).map fun d => Text.sorted (Entries.keys d.children)

end Volume

end VirtualShell
