import VirtualShell.Proofs.Tree.Lookup
/-
  What is found at each path after an edit.

  An outline is all that there is to say of a node without the nodes below it: its kind, its
  labels, the content of a file and the names of the children of a directory in their order. A
  tree is known when the outline at each path is, so what an edit does is said path by path,
  with no word on the entries that it goes through.

  Each edit has a law for the paths that it touches and one for all others. Putting a child in or
  taking one away touches a directory and what lies at the child or below it
  (`outline_addChild_beside`, `outline_removeChild_beside`). Taking a subtree from one place to
  another is the two in a row (`IsTransplant.outline_beside`), also where one of the two
  directories lies above the other. A subtree that gets new labels keeps everything else
  (`outline_relabel`).
-/

namespace VirtualShell.Node

/-- What a node is, apart from the nodes below it. -/
structure Outline where
  isDirectory : Bool
  name : Text
  path : Text
  mtime : Float
  size : Nat
  content? : Option Text
  /-- The names of the children in their order. -/
  names : List Text
  deriving DecidableEq

/-- What a node is, apart from the nodes below it. -/
def outline (n : Node) : Outline :=
  ⟨n.isDirectory, n.name, n.path, n.mtime, n.size, n.content?, Entries.keys n.children⟩

@[simp] theorem outline_file (name path : Text) (mtime : Float) (content : Text) (size : Nat) :
    (file name path mtime content size).outline =
      ⟨false, name, path, mtime, size, some content, []⟩ := rfl

@[simp] theorem outline_directory (name path : Text) (mtime : Float)
    (children : List (Text × Node)) : (directory name path mtime children).outline =
      ⟨true, name, path, mtime, 0, none, Entries.keys children⟩ := rfl

/-- The outline of the node that a path leads to. -/
def outline? (root : Node) (path : Text) : Option Outline := (root.lookup path).map outline

namespace Outline

/-- A directory that a child has been taken from at the instant `now`. -/
def losing (now : Float) (name : Text) (o : Outline) : Outline :=
  { o with mtime := now, names := o.names.erase name }

/-- A directory that has got a last child at the instant `now`. -/
def gaining (now : Float) (name : Text) (o : Outline) : Outline :=
  { o with mtime := now, names := o.names ++ [name] }

/-- A node that has come to another path at the instant `now`. -/
def placed (now : Float) (path : Text) (o : Outline) : Outline :=
  { o with path := path, mtime := now }

/-- A node that goes by another name. -/
def called (name : Text) (o : Outline) : Outline := { o with name := name }

end Outline

theorem outline?_eq_at? {root : Node} {path : Text} (h : Path.IsNormal path) :
    root.outline? path = (root.at? (Path.segments path)).map outline := by
  rw [outline?, lookup_eq_at? root h]

/-! ## Changing one node -/

/-- A change of a node is not seen from above it, nor from beside it. -/
theorem outline_updateAt_beside {keys other : List Text} (h : ¬ keys <+: other)
    (f : Node → Node) (n : Node) :
    ((n.updateAt keys f).at? other).map outline = (n.at? other).map outline := by
  induction keys generalizing other n with
  | nil => exact absurd List.nil_prefix h
  | cons key rest ih =>
    cases n with
    | file => rfl
    | directory name path mtime children =>
      cases other with
      | nil => simp [updateAt]
      | cons first more =>
        by_cases hkey : first = key
        · subst hkey
          have hrest : ¬ rest <+: more := fun hp => h (List.cons_prefix_cons.mpr ⟨rfl, hp⟩)
          simp only [updateAt, at?, Entries.get?_modify_self]
          cases Entries.get? first children with
          | none => rfl
          | some child => exact ih hrest child
        · rw [at?_updateAt_of_ne hkey]

/-- What lies below a changed node is what lies below what it was changed to. -/
theorem at?_updateAt_append (f : Node → Node) (keys more : List Text) (n : Node) :
    (n.updateAt keys f).at? (keys ++ more) = (n.at? keys).bind fun m => (f m).at? more := by
  rw [at?_append, at?_updateAt_self]
  cases n.at? keys <;> rfl

/-! ## Children put in and taken away -/

section Children

variable {n child : Node} {keys other : List Text} {name dirName path : Text} {mtime now : Float}
  {children : List (Text × Node)}

/-- A directory with a new last child, seen from anywhere but the child and below. -/
theorem outline_addChild_beside
    (hd : n.at? keys = some (.directory dirName path mtime children))
    (hfree : name ∉ Entries.keys children) (h : ¬ (keys ++ [name]) <+: other) :
    ((n.addChild now keys name child).at? other).map outline =
      ((n.at? other).map outline).map fun o => if other = keys then o.gaining now name else o := by
  by_cases hkeys : keys <+: other
  · obtain ⟨more, rfl⟩ := hkeys
    rw [addChild, at?_updateAt_append, at?_append, hd]
    cases more with
    | nil =>
      have hnames : Entries.keys (Entries.put name child children) =
          Entries.keys children ++ [name] := by
        rw [Entries.put_of_not_mem child hfree]
        simp [Entries.keys]
      simp [withChildren, Outline.gaining, hnames]
    | cons key rest =>
      have hne : key ≠ name := fun e => h (by simp [e])
      simp only [Option.bind_some, withChildren, at?, Entries.get?_put_of_ne hne]
      simp
  · have hne : other ≠ keys := fun e => hkeys (e ▸ List.prefix_rfl)
    simp only [addChild, outline_updateAt_beside hkeys, if_neg hne, Option.map_id']

/-- The child itself and what lies below it. -/
theorem at?_addChild_within
    (hd : n.at? keys = some (.directory dirName path mtime children)) (more : List Text) :
    (n.addChild now keys name child).at? (keys ++ name :: more) = child.at? more := by
  rw [addChild, at?_updateAt_append, hd]
  simp only [Option.bind_some, withChildren, at?, Entries.get?_put_self]
  rfl

/-- A directory that has lost a child, seen from anywhere but the child and below. -/
theorem outline_removeChild_beside
    (hd : n.at? keys = some (.directory dirName path mtime children))
    (h : ¬ (keys ++ [name]) <+: other) :
    ((n.removeChild now keys name).at? other).map outline =
      ((n.at? other).map outline).map fun o => if other = keys then o.losing now name else o := by
  by_cases hkeys : keys <+: other
  · obtain ⟨more, rfl⟩ := hkeys
    rw [removeChild, at?_updateAt_append, at?_append, hd]
    cases more with
    | nil =>
      simp [withChildren, Outline.losing, Entries.keys_erase]
    | cons key rest =>
      have hne : key ≠ name := fun e => h (by simp [e])
      simp only [Option.bind_some, withChildren, at?, Entries.get?_erase_of_ne hne]
      simp
  · have hne : other ≠ keys := fun e => hkeys (e ▸ List.prefix_rfl)
    simp only [removeChild, outline_updateAt_beside hkeys, if_neg hne, Option.map_id']

/-- Taking a child away leaves a directory wherever there is one, except at the child and below,
and whatever the node is that it is taken from. -/
theorem isDirectory_at?_removeChild (now : Float) (name : Text) {keys other : List Text}
    (h : ¬ (keys ++ [name]) <+: other) (n : Node) :
    ((n.removeChild now keys name).at? other).map isDirectory =
      (n.at? other).map isDirectory := by
  by_cases hkeys : keys <+: other
  · obtain ⟨more, rfl⟩ := hkeys
    rw [removeChild, at?_updateAt_append, at?_append]
    cases n.at? keys with
    | none => rfl
    | some m =>
      cases more with
      | nil => simp [isDirectory_withChildren]
      | cons key rest =>
        have hne : key ≠ name := fun e => h (by simp [e])
        cases m with
        | file => rfl
        | directory =>
          simp only [Option.bind_some, withChildren, at?, Entries.get?_erase_of_ne hne]
  · have hsame : ((n.removeChild now keys name).at? other).map outline =
        (n.at? other).map outline := outline_updateAt_beside hkeys _ n
    simpa [Option.map_map, Function.comp_def, outline] using
      congrArg (Option.map Outline.isDirectory) hsame

/-- Nothing is left where the child was, nor below. -/
theorem at?_removeChild_within
    (hd : n.at? keys = some (.directory dirName path mtime children))
    (hdistinct : (Entries.keys children).Nodup) (more : List Text) :
    (n.removeChild now keys name).at? (keys ++ name :: more) = none := by
  rw [removeChild, at?_updateAt_append, hd]
  simp only [Option.bind_some, withChildren, at?, Entries.get?_erase_self name hdistinct]
  rfl

end Children

/-! ## New labels -/

/-- A subtree that gets the labels of another place keeps everything else: each node below has the
path that its names make from the new place, and counts as changed. -/
theorem outline_relabel (now : Float) {n : Node} {keys : List Text} : ∀ {name : Text}
    (parent : Text), n.IsNamed name → ((n.relabel parent (some now)).at? keys).map outline =
      ((n.at? keys).map outline).map
        (Outline.placed now (Path.extend (Path.join parent name) keys)) := by
  induction keys generalizing n with
  | nil =>
    intro name parent hn
    rw [← hn.name_eq]
    cases n <;> simp [relabel, Outline.placed, Node.name, keys_relabelAll]
  | cons key rest ih =>
    intro name parent hn
    cases n with
    | file => rfl
    | directory nm path mtime children =>
      rw [isNamed_directory] at hn
      obtain ⟨rfl, -, hchildren⟩ := hn
      simp only [relabel, at?, relabelAll_eq_map, Entries.get?_map, Option.bind_eq_bind]
      cases hc : Entries.get? key children with
      | none => rfl
      | some child => exact ih _ (hchildren _ (Entries.mem_of_get? hc)).2

/-- The same for one that also gets another name: only the topmost node shows it. -/
theorem outline_relabel_withName (now : Float) {n : Node} {name : Text} (keys : List Text)
    (parent new : Text) (hn : n.IsNamed name) :
    (((n.withName new).relabel parent (some now)).at? keys).map outline =
      ((n.at? keys).map outline).map fun o => Outline.placed now
        (Path.extend (Path.join parent new) keys) (if keys = [] then o.called new else o) := by
  rw [outline_relabel now parent (hn.withName new)]
  cases keys with
  | nil => cases n <;> simp [withName, Outline.called]
  | cons key rest => cases n <;> simp [withName, at?]

/-! ## Taking a subtree elsewhere -/

/-- What is found somewhere is found wherever a beginning of the way there leads. -/
theorem isSome_at?_above {root : Node} {names more : List Text} (h : names <+: more)
    (hm : (root.at? more).isSome) : (root.at? names).isSome := by
  obtain ⟨rest, rfl⟩ := h
  rw [at?_append] at hm
  cases hn : root.at? names with
  | none => simp [hn] at hm
  | some n => rfl

/-- A child is found in a directory. -/
theorem exists_directory_of_at? {root child : Node} {names : List Text} {name : Text}
    (h : root.at? (names ++ [name]) = some child) : ∃ dirName path mtime children,
      root.at? names = some (.directory dirName path mtime children) := by
  rw [at?_append, Option.bind_eq_some_iff] at h
  obtain ⟨d, hd, h⟩ := h
  cases d with
  | file => cases h
  | directory dirName path mtime children => exact ⟨dirName, path, mtime, children, hd⟩

theorem notMem_keys_iff {root : Node} {names : List Text} {name dirName path : Text}
    {mtime : Float} {children : List (Text × Node)}
    (hd : root.at? names = some (.directory dirName path mtime children)) :
    name ∉ Entries.keys children ↔ root.at? (names ++ [name]) = none := by
  rw [at?_append, hd, ← Entries.get?_eq_none_iff]
  simp [at?]

/-- A node that is to go from one directory to another, where nothing has its new name. The other
directory may lie above the first or below it, but not within the node. -/
structure IsTransplant (root : Node) (old : List Text) (name : Text) (keys : List Text)
    (new : Text) : Prop where
  isNamed : root.IsNamed []
  source : (root.at? (old ++ [name])).isSome
  target : (root.at? keys).map isDirectory = some true
  outside : ¬ (old ++ [name]) <+: keys
  free : root.at? (keys ++ [new]) = none

namespace IsTransplant

variable {root child : Node} {old keys other : List Text} {name new : Text} {now : Float}

/-- No place lies within both the old and the new one. -/
theorem apart (h : IsTransplant root old name keys new) (hold : (old ++ [name]) <+: other) :
    ¬ (keys ++ [new]) <+: other := by
  intro hnew
  -- of two beginnings of one way, one is a beginning of the other
  have hsome : ¬ (root.at? (keys ++ [new])).isSome := by simp [h.free]
  rcases List.prefix_or_prefix_of_prefix hold hnew with hp | hp
  · rcases List.prefix_concat_iff.mp hp with heq | hp
    · exact hsome (heq ▸ h.source)
    · exact h.outside hp
  · exact hsome (isSome_at?_above hp h.source)

/-- The directory that the node is taken from. -/
theorem directory (h : IsTransplant root old name keys new) :
    ∃ dirName path mtime children, root.at? old = some (.directory dirName path mtime children) ∧
      (Entries.keys children).Nodup := by
  obtain ⟨child, hchild⟩ := Option.isSome_iff_exists.mp h.source
  obtain ⟨dirName, path, mtime, children, hold⟩ := exists_directory_of_at? hchild
  have hnamed := h.isNamed.at? hold
  rw [isNamed_directory] at hnamed
  exact ⟨dirName, path, mtime, children, hold, hnamed.2.1⟩

/-- When the node is taken away, the directory that it goes to is still one in which nothing has
its new name. -/
theorem target_removeChild (h : IsTransplant root old name keys new) (now : Float) :
    ∃ dirName path mtime children, (root.removeChild now old name).at? keys =
      some (.directory dirName path mtime children) ∧ new ∉ Entries.keys children := by
  obtain ⟨oldName, oldPath, oldTime, siblings, hold, -⟩ := h.directory
  have hfree : (root.removeChild now old name).at? (keys ++ [new]) = none := by
    have hbeside : ((root.removeChild now old name).at? (keys ++ [new])).map outline = _ :=
      outline_removeChild_beside hold fun hp => h.apart hp List.prefix_rfl
    rw [h.free] at hbeside
    exact Option.map_eq_none_iff.mp hbeside
  have hkept := isDirectory_at?_removeChild now name h.outside root
  obtain ⟨dirName, path, mtime, children, hd⟩ := exists_eq_directory (hkept.trans h.target)
  exact ⟨dirName, path, mtime, children, hd, (notMem_keys_iff hd).mpr hfree⟩

/-- The two directories, and all that is neither at the old place nor at the new one nor below. -/
theorem outline_beside (h : IsTransplant root old name keys new)
    (hold : ¬ (old ++ [name]) <+: other) (hnew : ¬ (keys ++ [new]) <+: other) :
    (((root.removeChild now old name).addChild now keys new child).at? other).map outline =
      (((root.at? other).map outline).map fun o =>
        if other = old then o.losing now name else o).map fun o =>
          if other = keys then o.gaining now new else o := by
  obtain ⟨dirName, path, mtime, children, hd, hfree⟩ := h.target_removeChild now
  obtain ⟨oldName, oldPath, oldTime, siblings, hsiblings, -⟩ := h.directory
  rw [outline_addChild_beside hd hfree hnew, outline_removeChild_beside hsiblings hold]

/-- Nothing is left at the old place or below. -/
theorem at?_gone (h : IsTransplant root old name keys new) (hold : (old ++ [name]) <+: other) :
    ((root.removeChild now old name).addChild now keys new child).at? other = none := by
  obtain ⟨dirName, path, mtime, children, hd, hfree⟩ := h.target_removeChild now
  obtain ⟨oldName, oldPath, oldTime, siblings, hsiblings, hdistinct⟩ := h.directory
  have hbeside : (((root.removeChild now old name).addChild now keys new child).at? other).map
      outline = _ := outline_addChild_beside hd hfree (h.apart hold)
  obtain ⟨more, rfl⟩ := hold
  rw [List.append_assoc, List.singleton_append] at hbeside ⊢
  rw [at?_removeChild_within hsiblings hdistinct] at hbeside
  exact Option.map_eq_none_iff.mp hbeside

end IsTransplant

end VirtualShell.Node
