import VirtualShell.FileSystem.Mutation
import VirtualShell.Proofs.Tree.Consistent
/-
  Edits keep a tree consistent.

  A change under keys keeps what the changed node keeps; so for the changes that add, remove
  or replace a child it is enough to look at the one directory. Relabelling makes the paths
  of a subtree fit whatever they were before, which is why a node may be moved, renamed or
  copied by taking it as it is and relabelling it.
-/

namespace VirtualShell.Node

/-! ## Going down -/

@[simp] theorem at?_nil (n : Node) : n.at? [] = some n := by
  cases n <;> rfl

theorem at?_append (keys more : List Text) (n : Node) :
    n.at? (keys ++ more) = (n.at? keys).bind (at? more) := by
  induction keys generalizing n with
  | nil => simp
  | cons key rest ih =>
    cases n with
    | file => rfl
    | directory name path mtime children =>
      simp only [List.cons_append, at?]
      cases Entries.get? key children with
      | none => rfl
      | some child => exact ih child

/-- A normal path is looked up along its names. -/
theorem lookup_eq_at? (root : Node) {path : Text} (h : Path.IsNormal path) :
    root.lookup path = root.at? (Path.segments path) := by
  rw [lookup, h.normalize_eq]

theorem lookup_join (root : Node) {parent name : Text} (hp : Path.IsNormal parent)
    (hn : Name.IsProper name) :
    root.lookup (Path.join parent name) = root.at? (Path.segments parent ++ [name]) := by
  rw [lookup_eq_at? root (Path.isNormal_join hp hn), hp.segments_join hn]

theorem exists_eq_directory {found : Option Node} (h : found.map isDirectory = some true) :
    ∃ name path mtime children, found = some (.directory name path mtime children) := by
  obtain ⟨n, rfl, hn⟩ := Option.map_eq_some_iff.mp h
  cases n with
  | file => cases hn
  | directory name path mtime children => exact ⟨name, path, mtime, children, rfl⟩

/-- What is reached below a node called `name` is called by the last key on the way. -/
theorem IsNamed.at? {keys : List Text} {n m : Node} {name : Text} (h : n.IsNamed name)
    (hm : n.at? keys = some m) : m.IsNamed (keys.getLastD name) := by
  induction keys generalizing n name with
  | nil =>
    rw [at?_nil, Option.some.injEq] at hm
    exact hm ▸ h
  | cons key rest ih =>
    cases n with
    | file => simp [Node.at?] at hm
    | directory nm path mtime children =>
      simp only [Node.at?, Option.bind_eq_bind, Option.bind_eq_some_iff] at hm
      obtain ⟨child, hc, hm⟩ := hm
      rw [isNamed_directory] at h
      have := ih (h.2.2 _ (Entries.mem_of_get? hc)).2 hm
      rwa [List.getLastD_cons]

/-- What is reached below a node at `path` has the path that the keys make. -/
theorem IsPlaced.at? {keys : List Text} {n m : Node} {path : Text} (h : n.IsPlaced path)
    (hm : n.at? keys = some m) : m.IsPlaced (Path.extend path keys) := by
  induction keys generalizing n path with
  | nil =>
    rw [at?_nil, Option.some.injEq] at hm
    exact hm ▸ h
  | cons key rest ih =>
    cases n with
    | file => simp [Node.at?] at hm
    | directory nm p mtime children =>
      simp only [Node.at?, Option.bind_eq_bind, Option.bind_eq_some_iff] at hm
      obtain ⟨child, hc, hm⟩ := hm
      rw [isPlaced_directory] at h
      exact ih (h.2 _ (Entries.mem_of_get? hc)) hm

/-! ## Changing one node -/

theorem at?_updateAt_self (f : Node → Node) (keys : List Text) (n : Node) :
    (n.updateAt keys f).at? keys = (n.at? keys).map f := by
  induction keys generalizing n with
  | nil => rw [updateAt, at?_nil, at?_nil, Option.map_some]
  | cons key rest ih =>
    cases n with
    | file => rfl
    | directory name path mtime children =>
      simp only [updateAt, at?, Entries.get?_modify_self]
      cases Entries.get? key children with
      | none => rfl
      | some child => exact ih child

/-- A change along one key leaves all that lies below another key as it was. -/
theorem at?_updateAt_of_ne {key other : Text} (h : other ≠ key) (f : Node → Node)
    (keys more : List Text) (n : Node) :
    (n.updateAt (key :: keys) f).at? (other :: more) = n.at? (other :: more) := by
  cases n with
  | file => rfl
  | directory name path mtime children =>
    simp only [updateAt, at?, Entries.get?_modify_of_ne h]

/-- Two changes of one node are one change of it. -/
theorem updateAt_updateAt (f g : Node → Node) (keys : List Text) (n : Node) :
    (n.updateAt keys g).updateAt keys f = n.updateAt keys fun m => f (g m) := by
  induction keys generalizing n with
  | nil => rfl
  | cons key rest ih =>
    cases n with
    | file => rfl
    | directory name path mtime children =>
      have hboth : (fun child => updateAt rest f (updateAt rest g child)) =
          updateAt rest fun m => f (g m) := funext ih
      simp only [updateAt, Entries.modify_modify, hboth]

theorem isDirectory_updateAt {f : Node → Node} (hf : ∀ n, (f n).isDirectory = n.isDirectory)
    (keys : List Text) (n : Node) : (updateAt keys f n).isDirectory = n.isDirectory := by
  cases keys with
  | nil => exact hf n
  | cons => cases n <;> rfl

theorem IsNamed.updateAt {f : Node → Node}
    (hf : ∀ (name : Text) (n : Node), n.IsNamed name → (f n).IsNamed name) (keys : List Text) :
    ∀ {n : Node} {name : Text}, n.IsNamed name → (n.updateAt keys f).IsNamed name := by
  induction keys with
  | nil => intro n name h; exact hf name n h
  | cons key rest ih =>
    intro n name h
    cases n with
    | file => exact h
    | directory nm path mtime children =>
      rw [isNamed_directory] at h
      rw [Node.updateAt, isNamed_directory, Entries.keys_modify]
      refine ⟨h.1, h.2.1, fun e he => ?_⟩
      rcases Entries.mem_modify he with he | ⟨child, hc, rfl⟩
      · exact h.2.2 e he
      · exact ⟨(h.2.2 _ hc).1, ih (h.2.2 _ hc).2⟩

theorem IsPlaced.updateAt {f : Node → Node} (keys : List Text) :
    ∀ {n : Node} {path : Text}, n.IsPlaced path →
      (∀ m : Node, m.IsPlaced (Path.extend path keys) →
        (f m).IsPlaced (Path.extend path keys)) →
      (n.updateAt keys f).IsPlaced path := by
  induction keys with
  | nil => intro n path h hf; exact hf n h
  | cons key rest ih =>
    intro n path h hf
    cases n with
    | file => exact h
    | directory nm p mtime children =>
      rw [isPlaced_directory] at h
      rw [Node.updateAt, isPlaced_directory]
      refine ⟨h.1, fun e he => ?_⟩
      rcases Entries.mem_modify he with he | ⟨child, hc, rfl⟩
      · exact h.2 e he
      · exact ih (h.2 _ hc) hf

/-- A change of the node at a normal path keeps the tree consistent if it keeps the name, the
path and the kind of whatever node may be there. -/
theorem IsConsistent.updateAt {f : Node → Node} {root : Node} {path : Text}
    (h : root.IsConsistent) (hp : Path.IsNormal path)
    (hd : ∀ n, (f n).isDirectory = n.isDirectory)
    (hn : ∀ (name : Text) (n : Node), n.IsNamed name → (f n).IsNamed name)
    (hpl : ∀ n : Node, n.IsPlaced path → (f n).IsPlaced path) :
    (root.updateAt (Path.segments path) f).IsConsistent := by
  rw [isConsistent_iff] at h ⊢
  refine ⟨(isDirectory_updateAt hd _ _).trans h.1, h.2.1.updateAt hn _, h.2.2.updateAt _ ?_⟩
  rw [hp.extend_segments]
  exact hpl

theorem isDirectory_withChildren (now : Float) (f : List (Text × Node) → List (Text × Node))
    (n : Node) : (withChildren now f n).isDirectory = n.isDirectory := by
  cases n <;> rfl

theorem withChildren_withChildren (now : Float) (f g : List (Text × Node) → List (Text × Node))
    (n : Node) :
    withChildren now f (withChildren now g n) = withChildren now (fun c => f (g c)) n := by
  cases n <;> rfl

theorem isDirectory_withContent (now : Float) (content : Text) (size : Nat) (n : Node) :
    (withContent now content size n).isDirectory = n.isDirectory := by
  cases n <;> rfl

theorem IsNamed.withContent {n : Node} {name content : Text} {size : Nat} (h : n.IsNamed name)
    (hs : contentSize? content = some size) (now : Float) :
    (n.withContent now content size).IsNamed name := by
  cases n with
  | file => exact ⟨h.1, hs⟩
  | directory => exact h

theorem IsPlaced.withContent {n : Node} {path : Text} (h : n.IsPlaced path) (now : Float)
    (content : Text) (size : Nat) : (n.withContent now content size).IsPlaced path := by
  cases n with
  | file => exact h
  | directory => exact h

/-- Whether some entries may be the children of a consistent directory, paths apart. -/
def AreNamed (children : List (Text × Node)) : Prop :=
  (Entries.keys children).Nodup ∧ ∀ e ∈ children, Name.IsProper e.1 ∧ IsNamed e.1 e.2

theorem IsNamed.withChildren {f : List (Text × Node) → List (Text × Node)} {n : Node}
    {name : Text} (h : n.IsNamed name) (hf : ∀ children, AreNamed children → AreNamed (f children))
    (now : Float) : (n.withChildren now f).IsNamed name := by
  cases n with
  | file => exact h
  | directory nm path mtime children =>
    rw [isNamed_directory] at h
    rw [Node.withChildren, isNamed_directory]
    exact ⟨h.1, hf children h.2⟩

theorem IsPlaced.withChildren {f : List (Text × Node) → List (Text × Node)} {n : Node}
    {path : Text} (h : n.IsPlaced path)
    (hf : ∀ children : List (Text × Node), (∀ e ∈ children, IsPlaced (Path.join path e.1) e.2) →
      ∀ e ∈ f children, IsPlaced (Path.join path e.1) e.2)
    (now : Float) : (n.withChildren now f).IsPlaced path := by
  cases n with
  | file => exact h
  | directory nm p mtime children =>
    rw [isPlaced_directory] at h
    rw [Node.withChildren, isPlaced_directory]
    exact ⟨h.1, hf children h.2⟩

theorem areNamed_nil : AreNamed [] := ⟨List.nodup_nil, by simp⟩

theorem AreNamed.put {children : List (Text × Node)} (h : AreNamed children) {name : Text}
    {child : Node} (hn : Name.IsProper name) (hc : child.IsNamed name) :
    AreNamed (Entries.put name child children) := by
  refine ⟨Entries.nodup_keys_put _ _ h.1, fun e he => ?_⟩
  rcases Entries.mem_put he with he | rfl
  · exact h.2 e he
  · exact ⟨hn, hc⟩

theorem AreNamed.erase {children : List (Text × Node)} (h : AreNamed children) (name : Text) :
    AreNamed (Entries.erase name children) :=
  ⟨Entries.nodup_keys_erase name h.1,
    fun e he => h.2 e ((Entries.erase_sublist name children).subset he)⟩

theorem IsConsistent.addChild {root child : Node} {parent name : Text} (h : root.IsConsistent)
    (hp : Path.IsNormal parent) (hn : Name.IsProper name) (hc : child.IsNamed name)
    (hpl : child.IsPlaced (Path.join parent name)) (now : Float) :
    (root.addChild now (Path.segments parent) name child).IsConsistent := by
  refine h.updateAt hp (isDirectory_withChildren _ _) (fun nm n hm => ?_) fun n hm => ?_
  · exact hm.withChildren (fun children hch => hch.put hn hc) now
  · refine hm.withChildren (fun children hch e he => ?_) now
    rcases Entries.mem_put he with he | rfl
    · exact hch e he
    · exact hpl

theorem IsConsistent.removeChild {root : Node} {parent : Text} (h : root.IsConsistent)
    (hp : Path.IsNormal parent) (now : Float) (name : Text) :
    (root.removeChild now (Path.segments parent) name).IsConsistent := by
  refine h.updateAt hp (isDirectory_withChildren _ _) (fun nm n hm => ?_) fun n hm => ?_
  · exact hm.withChildren (fun children hch => hch.erase name) now
  · refine hm.withChildren (fun children hch e he => ?_) now
    exact hch e ((Entries.erase_sublist name children).subset he)

/-! ## Relabelling -/

theorem IsNamed.withName {n : Node} {name : Text} (h : n.IsNamed name) (new : Text) :
    (n.withName new).IsNamed new := by
  cases n with
  | file => exact ⟨rfl, h.2⟩
  | directory => exact ⟨rfl, h.2⟩

theorem IsNamed.withName_eq_self {n : Node} {name : Text} (h : n.IsNamed name) :
    n.withName name = n := by
  rw [← h.name_eq]
  cases n <;> rfl

theorem keys_relabelAll (parent : Text) (time : Option Float) (children : List (Text × Node)) :
    Entries.keys (relabelAll parent time children) = Entries.keys children := by
  simp [relabelAll_eq_map, Entries.keys, Function.comp_def]

theorem IsNamed.relabel {n : Node} (time : Option Float) :
    ∀ {name : Text} (parent : Text), n.IsNamed name → (n.relabel parent time).IsNamed name := by
  induction n using induction with
  | file => intro name parent h; exact h
  | directory nm path mtime children ih =>
    intro name parent h
    rw [isNamed_directory] at h
    rw [Node.relabel, isNamed_directory, keys_relabelAll]
    refine ⟨h.1, h.2.1, fun e he => ?_⟩
    rw [relabelAll_eq_map, List.mem_map] at he
    obtain ⟨e, he, rfl⟩ := he
    exact ⟨(h.2.2 e he).1, ih e he _ (h.2.2 e he).2⟩

/-- Whatever its paths were, a relabelled node has the path of its new place, and so has
everything below it. -/
theorem IsNamed.isPlaced_relabel {n : Node} (time : Option Float) :
    ∀ {name : Text} (parent : Text), n.IsNamed name →
      (n.relabel parent time).IsPlaced (Path.join parent name) := by
  induction n using induction with
  | file => intro name parent h; rw [← h.1]; rfl
  | directory nm path mtime children ih =>
    intro name parent h
    rw [isNamed_directory] at h
    rw [Node.relabel, isPlaced_directory, h.1]
    refine ⟨rfl, fun e he => ?_⟩
    rw [relabelAll_eq_map, List.mem_map] at he
    obtain ⟨e, he, rfl⟩ := he
    exact ih e he _ (h.2.2 e he).2

end VirtualShell.Node
