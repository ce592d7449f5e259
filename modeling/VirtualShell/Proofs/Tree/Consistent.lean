import VirtualShell.Tree.Edit
import VirtualShell.Proofs.Entries
import VirtualShell.Proofs.Path
/-
  Consistent trees.

  In a consistent tree the labels of the nodes agree with their places: the root is
  a directory without a name at the root path, every other node is stored under its own
  name, which is a proper one, and has the path that its directory and its name make.
  Keys are distinct and every file has the size of its content.

  `IsConsistent` says so of all nodes of the tree, one by one. For proofs the same is said
  along the structure of the tree, in two parts that edits treat differently: `IsNamed`
  for names, keys and sizes, and `IsPlaced` for paths. `isConsistent_iff` joins the two.
-/

namespace VirtualShell.Node

/-- Induction on a tree, with all children of a directory at once. -/
theorem induction {motive : Node → Prop}
    (file : ∀ name path mtime content size, motive (.file name path mtime content size))
    (directory : ∀ name path mtime children, (∀ e ∈ children, motive e.2) →
      motive (.directory name path mtime children)) : ∀ n, motive n := by
  intro n
  -- the lists of children and the pairs in them have motives of their own
  refine Node.rec (motive_1 := motive) (motive_2 := fun children => ∀ e ∈ children, motive e.2)
    (motive_3 := fun e => motive e.2) file directory ?_ ?_ ?_ n
  · simp
  · intro e rest he hrest e' hm
    rcases List.mem_cons.mp hm with rfl | hm
    · exact he
    · exact hrest e' hm
  · intro _ _ h
    exact h

/-! ## The lists of entries in the mutual definitions -/

theorem mem_walkAll {n : Node} {children : List (Text × Node)} :
    n ∈ walkAll children ↔ ∃ e ∈ children, n ∈ walk e.2 := by
  induction children with
  | nil => simp [walkAll]
  | cons e rest ih => simp [walkAll, ih]

theorem mem_walk_self (n : Node) : n ∈ n.walk := by
  cases n <;> simp [walk]

theorem mem_walk_directory {n : Node} {name path : Text} {mtime : Float}
    {children : List (Text × Node)} :
    n ∈ walk (.directory name path mtime children) ↔
      n = .directory name path mtime children ∨ ∃ e ∈ children, n ∈ walk e.2 := by
  rw [walk, List.mem_cons, mem_walkAll]

theorem relabelAll_eq_map (parent : Text) (time : Option Float) (children : List (Text × Node)) :
    relabelAll parent time children = children.map fun e => (e.1, relabel parent time e.2) := by
  induction children with
  | nil => rfl
  | cons e rest ih => rw [relabelAll, ih, List.map_cons]

/-! ## Consistency, node by node -/

/-- What a consistent tree has at every node: distinct keys, children labelled by their
keys and by the path of the node, and the size of the content. -/
structure IsSound (n : Node) : Prop where
  distinct : (Entries.keys n.children).Nodup
  child : ∀ e ∈ n.children,
    e.2.name = e.1 ∧ Name.IsProper e.1 ∧ e.2.path = Path.join n.path e.1
  sized : ∀ content, n.content? = some content → contentSize? content = some n.size

/-- A tree whose labels agree with the places of its nodes. -/
structure IsConsistent (root : Node) : Prop where
  isDirectory : root.isDirectory = true
  name : root.name = []
  path : root.path = Path.root
  sound : ∀ n ∈ root.walk, n.IsSound

/-! ## Consistency along the structure -/

mutual

/-- Whether a node is called `name`, and all below it are called by their keys, with
distinct keys and right sizes. -/
def IsNamed (name : Text) : Node → Prop
  | file n _ _ content size => n = name ∧ contentSize? content = some size
  | directory n _ _ children => n = name ∧ (Entries.keys children).Nodup ∧ AllNamed children

/-- The same for each child of a directory. -/
def AllNamed : List (Text × Node) → Prop
  | [] => True
  | (key, child) :: rest => (Name.IsProper key ∧ IsNamed key child) ∧ AllNamed rest

end

mutual

/-- Whether a node has the path `path`, and all below it the paths that their keys make. -/
def IsPlaced (path : Text) : Node → Prop
  | file _ p .. => p = path
  | directory _ p _ children => p = path ∧ AllPlaced path children

/-- The same for each child of the directory at `parent`. -/
def AllPlaced (parent : Text) : List (Text × Node) → Prop
  | [] => True
  | (key, child) :: rest => IsPlaced (Path.join parent key) child ∧ AllPlaced parent rest

end

theorem allNamed_iff {children : List (Text × Node)} :
    AllNamed children ↔ ∀ e ∈ children, Name.IsProper e.1 ∧ IsNamed e.1 e.2 := by
  induction children with
  | nil => simp [AllNamed]
  | cons e rest ih => simp [AllNamed, ih]

theorem allPlaced_iff {parent : Text} {children : List (Text × Node)} :
    AllPlaced parent children ↔ ∀ e ∈ children, IsPlaced (Path.join parent e.1) e.2 := by
  induction children with
  | nil => simp [AllPlaced]
  | cons e rest ih => simp [AllPlaced, ih]

theorem isNamed_directory {name n path : Text} {mtime : Float} {children : List (Text × Node)} :
    IsNamed name (.directory n path mtime children) ↔
      n = name ∧ (Entries.keys children).Nodup ∧
        ∀ e ∈ children, Name.IsProper e.1 ∧ IsNamed e.1 e.2 := by
  rw [IsNamed, allNamed_iff]

theorem isPlaced_directory {path name p : Text} {mtime : Float} {children : List (Text × Node)} :
    IsPlaced path (.directory name p mtime children) ↔
      p = path ∧ ∀ e ∈ children, IsPlaced (Path.join path e.1) e.2 := by
  rw [IsPlaced, allPlaced_iff]

theorem IsNamed.name_eq {name : Text} {n : Node} (h : n.IsNamed name) : n.name = name := by
  cases n with
  | file => exact h.1
  | directory => exact h.1

theorem IsPlaced.path_eq {path : Text} {n : Node} (h : n.IsPlaced path) : n.path = path := by
  cases n with
  | file => exact h
  | directory => exact h.1

theorem isSound_of_mem_walk {root : Node} :
    ∀ {name path : Text}, root.IsNamed name → root.IsPlaced path →
      ∀ n ∈ root.walk, n.IsSound := by
  induction root using induction with
  | file name path mtime content size =>
    intro nm p hn _ n hm
    rw [walk, List.mem_singleton] at hm
    subst hm
    refine ⟨by simp [children], by simp [children], ?_⟩
    intro c hc
    cases hc
    exact hn.2
  | directory name path mtime children ih =>
    intro nm p hn hp n hm
    rw [isNamed_directory] at hn
    rw [isPlaced_directory] at hp
    obtain ⟨-, hd, hn⟩ := hn
    obtain ⟨rfl, hp⟩ := hp
    rcases mem_walk_directory.mp hm with rfl | ⟨e, he, hm⟩
    · refine ⟨hd, ?_, by simp [content?]⟩
      intro e he
      exact ⟨(hn e he).2.name_eq, (hn e he).1, (hp e he).path_eq⟩
    · exact ih e he (hn e he).2 (hp e he) n hm

theorem isNamed_and_isPlaced {root : Node} (h : ∀ n ∈ root.walk, n.IsSound) :
    root.IsNamed root.name ∧ root.IsPlaced root.path := by
  induction root using induction with
  | file name path mtime content size =>
    have hs := (h _ (mem_walk_self _)).sized content rfl
    exact ⟨⟨rfl, hs⟩, rfl⟩
  | directory name path mtime children ih =>
    have hs := h _ (mem_walk_self _)
    have below : ∀ e ∈ children, (e.2.IsNamed e.2.name ∧ e.2.IsPlaced e.2.path) := by
      intro e he
      exact ih e he fun n hn => h n (mem_walk_directory.mpr (Or.inr ⟨e, he, hn⟩))
    rw [isNamed_directory, isPlaced_directory]
    refine ⟨⟨rfl, hs.distinct, fun e he => ?_⟩, rfl, fun e he => ?_⟩
    · obtain ⟨hname, hproper, -⟩ := hs.child e he
      exact ⟨hproper, hname ▸ (below e he).1⟩
    · obtain ⟨-, -, hpath⟩ := hs.child e he
      have := (below e he).2
      rw [hpath] at this
      exact this

theorem isConsistent_iff {root : Node} :
    root.IsConsistent ↔
      root.isDirectory = true ∧ root.IsNamed [] ∧ root.IsPlaced Path.root := by
  constructor
  · intro h
    have hs := isNamed_and_isPlaced h.sound
    rw [h.name, h.path] at hs
    exact ⟨h.isDirectory, hs⟩
  · rintro ⟨hd, hn, hp⟩
    exact ⟨hd, hn.name_eq, hp.path_eq, isSound_of_mem_walk hn hp⟩

end VirtualShell.Node
