import VirtualShell.Proofs.FileSystem.Decision
/-
  Copying a node into its own directory, again and again.

  A copy next to its source needs another name and gets the first free one. Such a copy adds one
  child to the directory and takes none away (`Lists.copy`), so the next one finds all as before but
  for one more name that is taken. The names that a run of copies gives are therefore known before
  any of them is made (`copyNames`), and no two of them are the same.
-/

namespace VirtualShell

/-! ## The names of copies in a row -/

namespace Name

variable {name : Text} {taken : List Text} {n : Nat}

/-- The names that so many copies of one node get beside the names taken, one after the other. -/
def copyNames (name : Text) : Nat → List Text → List Text
  | 0, _ => []
  | n + 1, taken => forCopy name taken :: copyNames name n (taken ++ [forCopy name taken])

@[simp] theorem length_copyNames (name : Text) (n : Nat) (taken : List Text) :
    (copyNames name n taken).length = n := by
  induction n generalizing taken with
  | zero => rfl
  | succ n ih => rw [copyNames, List.length_cons, ih]

theorem nodup_append_copyNames (h : taken.Nodup) (name : Text) (n : Nat) :
    (taken ++ copyNames name n taken).Nodup := by
  -- the names taken grow with each copy, and each copy gets one that is not among them
  induction n generalizing taken with
  | zero => rwa [copyNames, List.append_nil]
  | succ n ih =>
    have hgained : (taken ++ [forCopy name taken]).Nodup :=
      List.nodup_append_comm.mp (List.nodup_cons.mpr ⟨forCopy_not_mem name taken, h⟩)
    have hall := ih hgained
    rwa [List.append_assoc] at hall

/-- Where the name itself is taken, every copy is marked. -/
theorem marked_of_mem_copyNames (h : name ∈ taken) {copy : Text}
    (hc : copy ∈ copyNames name n taken) : ∃ k, 0 < k ∧ copy = candidate name k := by
  induction n generalizing taken with
  | zero => cases hc
  | succ n ih =>
    rcases List.mem_cons.mp hc with rfl | hc
    · obtain ⟨k, hk⟩ := forCopy_eq_candidate name taken
      refine ⟨k, Nat.pos_of_ne_zero ?_, hk⟩
      rintro rfl
      exact forCopy_not_mem name taken (hk ▸ h)
    · exact ih (List.mem_append_left _ h) hc

end Name

/-! ## One copy -/

namespace Node

variable {root : Node} {source dir name : Text} {names : List Text}

/-- The names of the children of the directory at a path, if there is one. -/
def namesIn (root : Node) (dir : Text) : Option (List Text) :=
  (root.directoryAt dir).map fun d => Entries.keys d.children

theorem namesIn_eq_some_iff : root.namesIn dir = some names ↔
    ∃ dirName p mtime children, root.lookup (Path.normalize dir) =
      some (.directory dirName p mtime children) ∧ Entries.keys children = names := by
  rw [lookup_normalize, namesIn, directoryAt]
  cases root.lookup dir with
  | none => simp
  | some d => cases d <;> simp [isDirectory, children]

theorem namesIn_addChild (h : root.namesIn dir = some names) (hfree : name ∉ names) (now : Float)
    (child : Node) :
    (root.addChild now (Path.segments (Path.normalize dir)) name child).namesIn dir =
      some (names ++ [name]) := by
  obtain ⟨dirName, p, mtime, children, hd, rfl⟩ := namesIn_eq_some_iff.mp h
  have hdir := Path.isNormal_normalize dir
  rw [lookup_eq_at? root hdir] at hd
  refine namesIn_eq_some_iff.mpr ⟨dirName, p, now, Entries.put name child children, ?_, ?_⟩
  · rw [lookup_eq_at? _ hdir, addChild, at?_updateAt_self, hd]
    rfl
  · rw [Entries.put_of_not_mem child hfree]
    simp [Entries.keys]

/-- In a consistent tree, a directory with children called by the names, and one name of these. -/
structure Lists (root : Node) (dir name : Text) (names : List Text) : Prop where
  isConsistent : root.IsConsistent
  namesIn_eq : root.namesIn dir = some names
  mem : name ∈ names

theorem Lists.exists_lookup (h : root.Lists dir name names)
    (hs : Path.split (Path.normalize source) = (Path.normalize dir, name)) (hne : name ≠ []) :
    ∃ node, root.lookup source = some node ∧ node.name = name := by
  obtain ⟨dirName, p, mtime, children, hd, rfl⟩ := namesIn_eq_some_iff.mp h.namesIn_eq
  have hchild : root.childAt (Path.normalize dir) name = Entries.get? name children := by
    rw [childAt, directoryAt, hd]
    rfl
  obtain ⟨node, hnode⟩ := Option.ne_none_iff_exists'.mp
    (mt Entries.get?_eq_none_iff.mp (not_not_intro h.mem))
  rw [hnode, root.childAt_of_split hs hne] at hchild
  exact ⟨node, hchild, (h.isConsistent.isNamed_lookup hchild hs hne).name_eq⟩

theorem exists_lists (hc : root.IsConsistent) (hl : root.holds source = true)
    (hs : Path.split (Path.normalize source) = (Path.normalize dir, name)) (hne : name ≠ []) :
    ∃ names, root.Lists dir name names := by
  obtain ⟨node, hnode⟩ := Option.isSome_iff_exists.mp hl
  rw [← root.childAt_of_split hs hne] at hnode
  obtain ⟨dirName, p, mtime, children, hd, hentry⟩ := childAt_eq_some hnode
  exact ⟨Entries.keys children, hc, namesIn_eq_some_iff.mpr ⟨_, _, _, _, hd, rfl⟩,
    Entries.mem_keys_of_mem (Entries.mem_of_get? hentry)⟩

/-- A copy of a child next to itself is made, and adds the one name that it gets. -/
theorem Lists.copy (h : root.Lists dir name names) (now : Float)
    (hs : Path.split (Path.normalize source) = (Path.normalize dir, name)) (hne : name ≠ [])
    (hg : isProtected (Path.normalize dir) = false) :
    ∃ new, (Mutation.copy source dir).verdict now root = .accepted new ∧
      new.Lists dir name (names ++ [Name.forCopy name names]) := by
  obtain ⟨node, hl, hname⟩ := h.exists_lookup hs hne
  obtain ⟨dirName, p, mtime, children, hd, rfl⟩ := namesIn_eq_some_iff.mp h.namesIn_eq
  have hdir := Path.isNormal_normalize dir
  -- the directory lies above its child, so the copy is none into itself
  have hw : Path.isWithin (Path.normalize dir) (Path.normalize source) = false := by
    rw [← Bool.not_eq_true, hdir.isWithin_iff (Path.isNormal_normalize source),
      (Path.eq_join_of_split hs hne).2.2]
    intro hprefix
    have hlength := hprefix.length_le
    rw [List.length_append, List.length_singleton] at hlength
    omega
  have hv : (Mutation.copy source dir).verdict now root =
      .accepted (root.addChild now (Path.segments (Path.normalize dir))
        (Name.forCopy name (Entries.keys children))
        ((node.withName (Name.forCopy name (Entries.keys children))).relabel (Path.normalize dir)
          (some now))) := by
    simp only [Mutation.verdict, hg, hw, hd, root.lookup_normalize source, hl, hname,
      Bool.false_eq_true, if_false]
  exact ⟨_, hv, (Mutation.effect_of_accepted hv).isConsistent h.isConsistent,
    namesIn_addChild h.namesIn_eq (Name.forCopy_not_mem name _) now _, List.mem_append_left _ h.mem⟩

theorem Lists.nodup (h : root.Lists dir name names) : names.Nodup := by
  obtain ⟨dirName, p, mtime, children, hd, rfl⟩ := namesIn_eq_some_iff.mp h.namesIn_eq
  rw [lookup_eq_at? root (Path.isNormal_normalize dir)] at hd
  have hnamed := (isConsistent_iff.mp h.isConsistent).2.1.at? hd
  rw [isNamed_directory] at hnamed
  exact hnamed.2.1

end Node

/-! ## Copies in a row -/

namespace Volume

variable {v : Volume} {source dir name : Text} {names : List Text}

/-- The volume after a copy at each of the instants. -/
def copied (source dir : Text) (instants : List Float) (v : Volume) : Volume :=
  instants.foldl (fun v now => (apply now (.copy source dir) v).2) v

theorem lists_copied (h : v.root.Lists dir name names)
    (hs : Path.split (Path.normalize source) = (Path.normalize dir, name)) (hne : name ≠ [])
    (hg : isProtected (Path.normalize dir) = false) (instants : List Float) :
    (copied source dir instants v).root.Lists dir name
      (names ++ Name.copyNames name instants.length names) := by
  induction instants generalizing v names with
  | nil => rwa [List.length_nil, Name.copyNames, List.append_nil]
  | cons now instants ih =>
    obtain ⟨new, hv, hnew⟩ := h.copy now hs hne hg
    have hroot : (apply now (.copy source dir) v).2.root = new := by rw [root_apply, hv]; rfl
    have hrest := ih (hroot ▸ hnew)
    rwa [List.append_assoc] at hrest

/-- No copy is put into a protected directory, however often it is tried. -/
theorem root_copied_of_isProtected (hg : isProtected (Path.normalize dir) = true)
    (instants : List Float) : (copied source dir instants v).root = v.root := by
  induction instants generalizing v with
  | nil => rfl
  | cons now instants ih =>
    have hv : (Mutation.copy source dir).verdict now v.root = .guarded := by
      simp only [Mutation.verdict, hg, if_true]
    have hroot : (apply now (.copy source dir) v).2.root = v.root := by rw [root_apply, hv]; rfl
    exact ih.trans hroot

end Volume

namespace Name

/-- The search for the name of a copy ends at a name that is not taken: the name itself if it is
free, and otherwise the first free one of the names with a mark, which all differ. A valid name
leads to a valid one. So copying a node into its own directory any number of times gives as many
new children, each under a name of its own; only a protected directory takes none. -/
theorem copies_named_apart (name : Text) (taken : List Text) :
    (∀ t, SearchEnds name taken 0 t ↔ t = forCopy name taken) ∧
    forCopy name taken ∉ taken ∧
    (∃ k ≤ taken.length, forCopy name taken = candidate name k ∧
      ∀ i < k, candidate name i ∈ taken) ∧
    (candidate name 0 = name ∧ ∃ before after, IsCut name before after ∧
      candidate name 1 = before ++ " (copy)" ++ after ∧
      ∀ k, 2 ≤ k → candidate name k = before ++ (" (copy " ++ Text.ofNat k ++ ")") ++ after) ∧
    Function.Injective (candidate name) ∧
    (isValid name = true → isValid (forCopy name taken) = true) ∧
    ∀ (v : Volume) (source dir : Text) (instants : List Float), v.root.IsConsistent →
      v.root.holds source = true →
      Path.split (Path.normalize source) = (Path.normalize dir, name) → name ≠ [] →
      (isProtected (Path.normalize dir) = true →
        (Volume.copied source dir instants v).root = v.root) ∧
      (isProtected (Path.normalize dir) = false → ∃ names copies,
        v.root.namesIn dir = some names ∧
        (Volume.copied source dir instants v).root.namesIn dir = some (names ++ copies) ∧
        copies.length = instants.length ∧ (names ++ copies).Nodup ∧
        ∀ copy ∈ copies, ∃ k, 0 < k ∧ copy = candidate name k) := by
  refine ⟨fun t => searchEnds_iff, forCopy_not_mem name taken, forCopy_isFirst name taken,
    ⟨rfl, _, _, isCut_stemAndExtension name, candidate_of_ne_zero name (by decide), fun k hk => ?_⟩,
    fun j k => candidate_injective, fun h => ?_, fun v source dir instants hc hl hs hne =>
    ⟨fun hg => Volume.root_copied_of_isProtected hg instants, fun hg => ?_⟩⟩
  · rw [candidate_of_ne_zero name (by omega), copyMark_of_ne_one (by omega)]
  · exact isValid_iff.mpr (isProper_forCopy (isValid_iff.mp h) taken)
  · obtain ⟨names, hnames⟩ := Node.exists_lists hc hl hs hne
    exact ⟨names, copyNames name instants.length names, hnames.namesIn_eq,
      (Volume.lists_copied hnames hs hne hg instants).namesIn_eq, length_copyNames name _ names,
      nodup_append_copyNames hnames.nodup name _, fun _ => marked_of_mem_copyNames hnames.mem⟩

/-- Three copies of a file of the starting tree, into a directory that is spelt differently. -/
theorem copies_named_apart_in_documents :
    let v : Volume := ⟨Node.defaultTree 0, false, none, Store.empty, Volume.defaultKey⟩
    v.root.IsConsistent ∧ v.root.holds "/Documents/welcome.txt" = true ∧ ∃ copies : List Text,
      (Volume.copied "/Documents/welcome.txt" "//Documents" [1, 2, 3] v).root.namesIn
        "//Documents" = some ([Text.ofString "welcome.txt", "photo.png"] ++ copies) ∧
      copies.length = 3 ∧ copies.Nodup := by
  intro v
  have hc : v.root.IsConsistent := Node.isConsistent_defaultTree 0
  have hl : v.root.holds "/Documents/welcome.txt" = true := by decide +kernel
  have hs : Path.split (Path.normalize "/Documents/welcome.txt") =
      (Path.normalize "//Documents", Text.ofString "welcome.txt") := by decide +kernel
  have hnames : v.root.namesIn "//Documents" = some [Text.ofString "welcome.txt", "photo.png"] := by
    decide +kernel
  obtain ⟨-, -, -, -, -, -, hcopied⟩ := copies_named_apart "welcome.txt" ["welcome.txt"]
  obtain ⟨names, copies, hbefore, hafter, hlength, hnodup, -⟩ :=
    (hcopied v _ _ [1, 2, 3] hc hl hs (by decide)).2 (by decide +kernel)
  rw [hnames, Option.some.injEq] at hbefore
  subst hbefore
  exact ⟨hc, hl, copies, hafter, hlength, (List.nodup_append.mp hnodup).2.1⟩

example : forCopy ".profile" [".profile"] = " (copy).profile" ∧
    forCopy "a." ["a.", "a (copy)."] = "a (copy 2)." ∧
    forCopy "a (copy)" ["a (copy)"] = "a (copy) (copy)" := by decide

end Name

end VirtualShell
