import Mathlib.Data.List.Nodup
import VirtualShell.Proofs.Tree.Edit
/-
  Looking up and walking.

  Looking up goes down by the keys that a path is made of, and never asks a node for its path.
  Walking goes through the children, and knows of no path but what the nodes say of themselves.
  In a consistent tree the two agree: the walked nodes are those that keys lead to, the path of
  a node is the text of the keys that lead to it, and no path is there twice. So a path, however it
  is spelt, leads to the walked node that has the path. At the end is what the path of a child
  leads to after the children of its directory changed.
-/

namespace VirtualShell.Node

/-! ## Walked nodes and the keys that lead to them -/

theorem walkAll_eq_flatMap (children : List (Text × Node)) :
    walkAll children = children.flatMap fun e => walk e.2 := by
  induction children with
  | nil => rfl
  | cons e rest ih => rw [walkAll, ih, List.flatMap_cons]

theorem mem_walk_of_at? {keys : List Text} {n m : Node} (h : n.at? keys = some m) :
    m ∈ n.walk := by
  induction keys generalizing n with
  | nil =>
    rw [at?_nil, Option.some.injEq] at h
    exact h ▸ mem_walk_self n
  | cons key rest ih =>
    cases n with
    | file => simp [at?] at h
    | directory name path mtime children =>
      simp only [at?, Option.bind_eq_bind, Option.bind_eq_some_iff] at h
      obtain ⟨child, hc, h⟩ := h
      exact mem_walk_directory.mpr (Or.inr ⟨_, Entries.mem_of_get? hc, ih h⟩)

/-- No key hides another, so keys lead to every node that is walked. -/
theorem IsNamed.exists_at? {n m : Node} : ∀ {name : Text}, n.IsNamed name → m ∈ n.walk →
    ∃ keys, n.at? keys = some m := by
  induction n using induction with
  | file name path mtime content size =>
    intro _ _ hm
    rw [walk, List.mem_singleton] at hm
    exact ⟨[], by rw [hm, at?_nil]⟩
  | directory name path mtime children ih =>
    intro nm hn hm
    rw [isNamed_directory] at hn
    obtain ⟨-, hd, hn⟩ := hn
    rcases mem_walk_directory.mp hm with rfl | ⟨⟨key, child⟩, he, hm⟩
    · exact ⟨[], at?_nil _⟩
    · obtain ⟨keys, hk⟩ := ih _ he (hn _ he).2 hm
      refine ⟨key :: keys, ?_⟩
      rw [Node.at?, Entries.get?_of_mem hd he]
      exact hk

theorem IsNamed.isProper_of_at? {keys : List Text} {n m : Node} {name : Text}
    (h : n.IsNamed name) (hm : n.at? keys = some m) : ∀ key ∈ keys, Name.IsProper key := by
  induction keys generalizing n name with
  | nil => simp
  | cons key rest ih =>
    cases n with
    | file => simp [Node.at?] at hm
    | directory nm path mtime children =>
      simp only [Node.at?, Option.bind_eq_bind, Option.bind_eq_some_iff] at hm
      obtain ⟨child, hc, hm⟩ := hm
      rw [isNamed_directory] at h
      obtain ⟨hproper, hchild⟩ := h.2.2 _ (Entries.mem_of_get? hc)
      exact List.forall_mem_cons.mpr ⟨hproper, ih hchild hm⟩

/-! ## Paths of walked nodes -/

/-- The path of what is walked below a place goes on from the path of the place. -/
theorem IsNamed.path_of_mem_walk {n m : Node} {name : Text} {names : List Text}
    (hn : n.IsNamed name) (hp : n.IsPlaced (Path.render names))
    (hnames : ∀ k ∈ names, Name.IsProper k) (hm : m ∈ n.walk) :
    ∃ keys, (∀ k ∈ keys, Name.IsProper k) ∧ m.path = Path.render (names ++ keys) := by
  obtain ⟨keys, hk⟩ := hn.exists_at? hm
  have hkeys := hn.isProper_of_at? hk
  have hplaced := hp.at? hk
  rw [Path.extend_render hnames hkeys] at hplaced
  exact ⟨keys, hkeys, hplaced.path_eq⟩

theorem isProper_append {names keys : List Text} (hn : ∀ k ∈ names, Name.IsProper k)
    (hk : ∀ k ∈ keys, Name.IsProper k) : ∀ k ∈ names ++ keys, Name.IsProper k := by
  intro k hm
  exact (List.mem_append.mp hm).elim (hn k) (hk k)

/-- No two walked nodes have the same path. The induction is on the tree: below different keys
the paths part at the key, and the path of a directory is shorter than any below it. -/
theorem IsNamed.nodup_path_walk {n : Node} : ∀ {name : Text} {names : List Text},
    n.IsNamed name → n.IsPlaced (Path.render names) → (∀ k ∈ names, Name.IsProper k) →
    (n.walk.map path).Nodup := by
  induction n using induction with
  | file => intro name names _ _ _; simp [walk]
  | directory nm p mtime children ih =>
    intro name names hn hp hnames
    have hself : p = Path.render names := hp.path_eq
    rw [isNamed_directory] at hn
    rw [isPlaced_directory] at hp
    obtain ⟨-, hdistinct, hn⟩ := hn
    -- the names on the way to a child
    have hto : ∀ e ∈ children, ∀ k ∈ names ++ [e.1], Name.IsProper k := fun e he =>
      isProper_append hnames fun k hk => List.mem_singleton.mp hk ▸ (hn e he).1
    have hplaced : ∀ e ∈ children, e.2.IsPlaced (Path.render (names ++ [e.1])) := by
      intro e he
      rw [← Path.join_render hnames]
      exact hp.2 e he
    -- the keys that a path below a child is made of
    have below : ∀ e ∈ children, ∀ q ∈ e.2.walk.map path,
        ∃ keys, Path.segments q = names ++ e.1 :: keys := by
      intro e he q hq
      obtain ⟨m, hm, rfl⟩ := List.mem_map.mp hq
      obtain ⟨keys, hkeys, hpath⟩ := (hn e he).2.path_of_mem_walk (hplaced e he) (hto e he) hm
      refine ⟨keys, ?_⟩
      rw [hpath, Path.segments_render (isProper_append (hto e he) hkeys), List.append_assoc]
      rfl
    rw [walk, walkAll_eq_flatMap, List.map_cons, List.map_flatMap, List.nodup_cons,
      List.nodup_flatMap]
    refine ⟨?_, fun e he => ih e he (hn e he).2 (hplaced e he) (hto e he), ?_⟩
    · rw [List.mem_flatMap]
      rintro ⟨e, he, hmem⟩
      obtain ⟨keys, hk⟩ := below e he _ hmem
      rw [Node.path, hself, Path.segments_render hnames] at hk
      simpa using congrArg List.length hk
    · refine List.Pairwise.imp_of_mem ?_ (List.pairwise_map.mp hdistinct)
      intro e f he hf hne q hqe hqf
      obtain ⟨keys, hk⟩ := below e he q hqe
      obtain ⟨keys', hk'⟩ := below f hf q hqf
      have heq := List.append_cancel_left (hk.symm.trans hk')
      exact hne (List.cons.inj heq).1

/-! ## Consistent trees -/

namespace IsConsistent

variable {root n : Node}

theorem nodup_path_walk (h : root.IsConsistent) : (root.walk.map Node.path).Nodup := by
  obtain ⟨-, hn, hp⟩ := isConsistent_iff.mp h
  rw [← Path.render_nil] at hp
  exact hn.nodup_path_walk hp (by simp)

/-- The path of a node is the text of the keys that lead to it. -/
theorem path_of_at? (h : root.IsConsistent) {keys : List Text} (hk : root.at? keys = some n) :
    (∀ k ∈ keys, Name.IsProper k) ∧ n.path = Path.render keys := by
  obtain ⟨-, hn, hp⟩ := isConsistent_iff.mp h
  have hkeys := hn.isProper_of_at? hk
  have hplaced := hp.at? hk
  rw [← Path.render_nil, Path.extend_render (by simp) hkeys] at hplaced
  exact ⟨hkeys, hplaced.path_eq⟩

/-- The path of a walked node is normal and leads back to the node. -/
theorem lookup_path (h : root.IsConsistent) (hn : n ∈ root.walk) :
    Path.IsNormal n.path ∧ root.lookup n.path = some n := by
  obtain ⟨keys, hk⟩ := (isConsistent_iff.mp h).2.1.exists_at? hn
  obtain ⟨hkeys, hpath⟩ := h.path_of_at? hk
  have hnormal : Path.IsNormal n.path := hpath ▸ Path.isNormal_render hkeys
  refine ⟨hnormal, ?_⟩
  rw [lookup_eq_at? root hnormal, hpath, Path.segments_render hkeys, hk]

/-- What a path leads to is the walked node that has the path in its normal form. -/
theorem lookup_eq_some_iff (h : root.IsConsistent) {path : Text} :
    root.lookup path = some n ↔ n ∈ root.walk ∧ n.path = Path.normalize path := by
  constructor
  · intro hl
    refine ⟨mem_walk_of_at? hl, ?_⟩
    rw [(h.path_of_at? hl).2, (Path.isNormal_normalize path).render_segments]
  · rintro ⟨hn, hpath⟩
    obtain ⟨-, hl⟩ := h.lookup_path hn
    rwa [hpath, lookup, Path.normalize_normalize] at hl

theorem lookup_eq_none_iff (h : root.IsConsistent) {path : Text} :
    root.lookup path = none ↔ ∀ n ∈ root.walk, n.path ≠ Path.normalize path := by
  simp only [Option.eq_none_iff_forall_ne_some, ne_eq, h.lookup_eq_some_iff, not_and]

end IsConsistent

/-! ## Looking up after an edit -/

/-- What is found at the path of a child after a change of the children of its directory. -/
theorem lookup_withChildren {root : Node} {parent name dirName p : Text} {mtime : Float}
    {children : List (Text × Node)} (hp : Path.IsNormal parent) (hn : Name.IsProper name)
    (hl : root.lookup parent = some (.directory dirName p mtime children))
    (f : List (Text × Node) → List (Text × Node)) (now : Float) :
    (root.updateAt (Path.segments parent) (withChildren now f)).lookup (Path.join parent name) =
      Entries.get? name (f children) := by
  rw [lookup_eq_at? root hp] at hl
  rw [lookup_join _ hp hn, at?_append, at?_updateAt_self, hl]
  show (Entries.get? name (f children)).bind (at? []) = _
  cases Entries.get? name (f children) <;> simp

theorem lookup_addChild {root : Node} {parent name : Text} (hp : Path.IsNormal parent)
    (hn : Name.IsProper name) (hd : (root.lookup parent).map isDirectory = some true)
    (child : Node) (now : Float) :
    (root.addChild now (Path.segments parent) name child).lookup (Path.join parent name) =
      some child := by
  obtain ⟨dirName, p, mtime, children, hl⟩ := exists_eq_directory hd
  rw [addChild, lookup_withChildren hp hn hl, Entries.get?_put_self]

end VirtualShell.Node
