import VirtualShell.Proofs.Name
import VirtualShell.Proofs.Tree.Edit
/-
  What an accepted change does.

  `Effect` says once, for each kind of change, under which conditions it is accepted and
  what the new tree is; everything that holds of accepted changes is read off it. Here that
  is consistency: a change of a consistent tree gives a consistent tree.
-/

namespace VirtualShell

namespace Node

@[simp] theorem lookup_normalize (root : Node) (path : Text) :
    root.lookup (Path.normalize path) = root.lookup path := by
  rw [lookup, Path.normalize_normalize, lookup]

/-- A node that is not the root is called by the last name of its path. -/
theorem IsConsistent.isNamed_lookup {root n : Node} {path parent name : Text}
    (h : root.IsConsistent) (hl : root.lookup path = some n)
    (hs : Path.split (Path.normalize path) = (parent, name)) (hne : name ≠ []) :
    n.IsNamed name := by
  have hn := (isConsistent_iff.mp h).2.1.at? hl
  rwa [(Path.eq_join_of_split hs hne).2.2, List.getLastD_concat] at hn

theorem childAt_eq_some {root child : Node} {parent name : Text}
    (h : root.childAt parent name = some child) :
    ∃ dirName p mtime children, root.lookup parent = some (.directory dirName p mtime children) ∧
      Entries.get? name children = some child := by
  simp only [childAt, directoryAt, Option.bind_eq_bind, Option.bind_eq_some_iff,
    Option.filter_eq_some_iff] at h
  obtain ⟨d, ⟨hl, hd⟩, hc⟩ := h
  cases d with
  | file => simp [isDirectory] at hd
  | directory dirName p mtime children => exact ⟨dirName, p, mtime, children, hl, hc⟩

theorem IsConsistent.isNamed_childAt {root child : Node} {parent name : Text}
    (h : root.IsConsistent) (hc : root.childAt parent name = some child) :
    child.IsNamed name := by
  obtain ⟨dirName, p, mtime, children, hl, hc⟩ := childAt_eq_some hc
  have hn := (isConsistent_iff.mp h).2.1.at? hl
  rw [isNamed_directory] at hn
  exact (hn.2.2 _ (Entries.mem_of_get? hc)).2

/-- The child under a name is what the path of that name leads to. -/
theorem childAt_eq_lookup (root : Node) {parent name : Text} (hp : Path.IsNormal parent)
    (hn : Name.IsProper name) : root.childAt parent name = root.lookup (Path.join parent name) := by
  rw [lookup_join root hp hn, at?_append, childAt, directoryAt, lookup_eq_at? root hp]
  cases root.at? (Path.segments parent) with
  | none => rfl
  | some n =>
    cases n with
    | file => rfl
    | directory dirName p mtime children =>
      show Entries.get? name children = (Entries.get? name children).bind (at? [])
      cases Entries.get? name children <;> simp

/-- A path other than the root leads to the child under its last name. -/
theorem childAt_of_split (root : Node) {path parent name : Text}
    (hs : Path.split (Path.normalize path) = (parent, name)) (hne : name ≠ []) :
    root.childAt parent name = root.lookup path := by
  obtain ⟨hproper, hjoin, -⟩ := Path.eq_join_of_split hs hne
  rw [childAt_eq_lookup root (Path.isNormal_split hs) hproper, ← hjoin, lookup_normalize]

end Node

namespace Mutation

/-- The new tree of an accepted change, with all that the acceptance tells. -/
inductive Effect (now : Float) (root : Node) : Mutation → Node → Prop
  | write {path content name p : Text} {mtime : Float} {old : Text} {oldSize size : Nat} :
    isProtected (Path.normalize path) = false →
    root.lookup (Path.normalize path) = some (.file name p mtime old oldSize) →
    contentSize? content = some size →
    Effect now root (.write path content)
      (root.updateAt (Path.segments (Path.normalize path)) (Node.withContent now content size))
  | createFile {parent name content dirName p : Text} {mtime : Float}
      {children : List (Text × Node)} {size : Nat} :
    Name.IsProper name → isProtected (Path.join (Path.normalize parent) name) = false →
    root.lookup (Path.normalize parent) = some (.directory dirName p mtime children) →
    name ∉ Entries.keys children → contentSize? content = some size →
    Effect now root (.createFile parent name content)
      (root.addChild now (Path.segments (Path.normalize parent)) name
        (.file name (Path.join (Path.normalize parent) name) now content size))
  | createDirectory {parent name dirName p : Text} {mtime : Float}
      {children : List (Text × Node)} :
    Name.IsProper name → isProtected (Path.join (Path.normalize parent) name) = false →
    root.lookup (Path.normalize parent) = some (.directory dirName p mtime children) →
    name ∉ Entries.keys children →
    Effect now root (.createDirectory parent name)
      (root.addChild now (Path.segments (Path.normalize parent)) name
        (.directory name (Path.join (Path.normalize parent) name) now []))
  | delete {path parent name : Text} {node : Node} :
    isProtected (Path.normalize path) = false →
    Path.split (Path.normalize path) = (parent, name) → name ≠ [] →
    root.childAt parent name = some node →
    Effect now root (.delete path) (root.removeChild now (Path.segments parent) name)
  | rename {path newName parent name : Text} {node : Node} :
    isProtected (Path.normalize path) = false →
    Path.split (Path.normalize path) = (parent, name) → name ≠ [] → Name.IsProper newName →
    root.childAt parent name = some node → root.childAt parent newName = none →
    Effect now root (.rename path newName)
      (root.updateAt (Path.segments parent) (Node.withChildren now fun children =>
        Entries.put newName ((node.withName newName).relabel parent (some now))
          (Entries.erase name children)))
  | move {source newParent oldParent name dirName p : Text} {mtime : Float}
      {children : List (Text × Node)} {node : Node} :
    isProtected (Path.normalize source) = false →
    isProtected (Path.normalize newParent) = false →
    root.lookup (Path.normalize source) = some node →
    root.lookup (Path.normalize newParent) = some (.directory dirName p mtime children) →
    Path.isWithin (Path.normalize newParent) (Path.normalize source) = false →
    Path.split (Path.normalize source) = (oldParent, name) →
    oldParent ≠ Path.normalize newParent → name ∉ Entries.keys children →
    Effect now root (.move source newParent)
      ((root.removeChild now (Path.segments oldParent) name).addChild now
        (Path.segments (Path.normalize newParent)) name
        (node.relabel (Path.normalize newParent) (some now)))
  | copy {source newParent dirName p : Text} {mtime : Float} {children : List (Text × Node)}
      {node : Node} :
    isProtected (Path.normalize newParent) = false →
    root.lookup (Path.normalize source) = some node →
    root.lookup (Path.normalize newParent) = some (.directory dirName p mtime children) →
    Path.isWithin (Path.normalize newParent) (Path.normalize source) = false →
    Effect now root (.copy source newParent)
      (root.addChild now (Path.segments (Path.normalize newParent))
        (Name.forCopy node.name (Entries.keys children))
        ((node.withName (Name.forCopy node.name (Entries.keys children))).relabel
          (Path.normalize newParent) (some now)))

/-- What a verdict on a change can be. The protected directory is never the reason for a refusal:
running into it is a verdict of its own. -/
inductive Ruling (now : Float) (root : Node) (m : Mutation) : Verdict → Prop
  | accepted {new : Node} (effect : Effect now root m new) : Ruling now root m (.accepted new)
  | refused {reason : Refusal} (ne : reason ≠ .protectedPath) : Ruling now root m (.refused reason)
  | guarded : Ruling now root m .guarded
  | unencodable {content : Text} : Ruling now root m (.unencodable content)

/-- A node within which not everything lies is not the root, so it has a proper name. -/
theorem isProper_of_isWithin_eq_false {path source parent name : Text}
    (hs : Path.split (Path.normalize source) = (parent, name))
    (hw : Path.isWithin path (Path.normalize source) = false) : Name.IsProper name := by
  rcases (Path.isNormal_normalize source).split_cases with
    ⟨hroot, -⟩ | ⟨p, nm, -, hproper, hsplit, -, -⟩
  · rw [hroot, Path.isWithin_root] at hw
    cases hw
  · rw [hsplit, Prod.mk.injEq] at hs
    exact hs.2 ▸ hproper

/-- A node within which not everything lies goes by a proper name. -/
theorem exists_isNamed_of_isWithin_eq_false {root node : Node} {path source : Text}
    (h : root.IsConsistent) (hl : root.lookup (Path.normalize source) = some node)
    (hw : Path.isWithin path (Path.normalize source) = false) :
    ∃ name, Name.IsProper name ∧ node.IsNamed name := by
  obtain ⟨parent, name, hs⟩ : ∃ parent name, Path.split (Path.normalize source) = (parent, name) :=
    ⟨_, _, rfl⟩
  have hname := isProper_of_isWithin_eq_false hs hw
  rw [Node.lookup_normalize] at hl
  exact ⟨name, hname, h.isNamed_lookup hl hs hname.1⟩

theorem ruling_create {now : Float} {root : Node} {m : Mutation} {parent name : Text}
    {make : Text → Except Text Node}
    (heffect : ∀ dirName p mtime children child, Name.IsProper name →
      isProtected (Path.join (Path.normalize parent) name) = false →
      root.lookup (Path.normalize parent) = some (.directory dirName p mtime children) →
      name ∉ Entries.keys children →
      make (Path.join (Path.normalize parent) name) = .ok child →
      Effect now root m (root.addChild now (Path.segments (Path.normalize parent)) name child)) :
    Ruling now root m (create now root parent name make) := by
  simp only [create]
  split
  · exact .refused (by decide)
  rename_i hn
  split
  · exact .guarded
  rename_i hg
  split
  · exact .refused (by decide)
  · exact .refused (by decide)
  rename_i hl
  split
  · exact .refused (by decide)
  rename_i hk
  split
  · exact .unencodable
  rename_i hm
  refine .accepted (heffect _ _ _ _ _ ?_ (by simpa using hg) hl ?_ hm)
  · exact Name.isValid_iff.mp (by simpa using hn)
  · rw [← Entries.has_iff]
    exact hk

/-- The one place where the verdicts are taken apart. -/
theorem ruling_verdict (now : Float) (root : Node) (m : Mutation) :
    Ruling now root m (m.verdict now root) := by
  cases m with
  | write path content =>
    simp only [verdict]
    split
    · exact .guarded
    rename_i hg
    split
    · exact .refused (by decide)
    · exact .refused (by decide)
    rename_i hl
    split
    · exact .unencodable
    rename_i size hs
    exact .accepted (.write (by simpa using hg) hl hs)
  | createFile parent name content =>
    rw [verdict]
    refine ruling_create fun dirName p mtime children child hn hg hl hk hm => ?_
    split at hm
    · rename_i file hf
      cases hm
      rw [Node.newFile?, Option.map_eq_some_iff] at hf
      obtain ⟨size, hs, rfl⟩ := hf
      exact .createFile hn hg hl hk hs
    · cases hm
  | createDirectory parent name =>
    rw [verdict]
    refine ruling_create fun dirName p mtime children child hn hg hl hk hm => ?_
    cases hm
    exact .createDirectory hn hg hl hk
  | delete path =>
    simp only [verdict]
    generalize hs : Path.split (Path.normalize path) = parts
    obtain ⟨parent, name⟩ := parts
    split
    · exact .guarded
    rename_i hg
    split
    · exact .refused (by decide)
    rename_i hn
    split
    · exact .refused (by decide)
    rename_i node hc
    exact .accepted (.delete (by simpa using hg) hs hn hc)
  | rename path newName =>
    simp only [verdict]
    generalize hs : Path.split (Path.normalize path) = parts
    obtain ⟨parent, name⟩ := parts
    split
    · exact .guarded
    rename_i hg
    split
    · exact .refused (by decide)
    rename_i hn
    split
    · exact .refused (by decide)
    rename_i node hc
    split
    · exact .refused (by decide)
    rename_i hnew
    rw [Bool.or_eq_true, not_or] at hn
    refine .accepted (.rename (by simpa using hg) hs (by simpa using hn.1) ?_ hc ?_)
    · exact Name.isValid_iff.mp (by simpa using hn.2)
    · simpa using hnew
  | move source newParent =>
    simp only [verdict]
    split
    · exact .guarded
    rename_i hg
    split
    · exact .refused (by decide)
    · exact .refused (by decide)
    · exact .refused (by decide)
    rename_i dirName p mtime children hsrc hdst
    generalize hs : Path.split (Path.normalize source) = parts
    obtain ⟨oldParent, name⟩ := parts
    split
    · exact .refused (by decide)
    rename_i hcycle
    split
    · exact .refused (by decide)
    rename_i hsame
    split
    · exact .refused (by decide)
    rename_i hk
    split
    · exact .refused (by decide)
    rename_i node hc
    rw [Bool.or_eq_true, not_or] at hg
    have hw : Path.isWithin (Path.normalize newParent) (Path.normalize source) = false := by
      simpa using hcycle
    have hname := isProper_of_isWithin_eq_false hs hw
    rw [root.childAt_of_split hs hname.1, ← Node.lookup_normalize] at hc
    refine .accepted (.move (by simpa using hg.1) (by simpa using hg.2) hc hdst hw hs hsame ?_)
    rw [← Entries.has_iff]
    exact hk
  | copy source newParent =>
    simp only [verdict]
    split
    · exact .guarded
    rename_i hg
    split
    · exact .refused (by decide)
    · exact .refused (by decide)
    · exact .refused (by decide)
    rename_i node dirName p mtime children hsrc hdst
    split
    · exact .refused (by decide)
    rename_i hcycle
    exact .accepted (.copy (by simpa using hg) hsrc hdst (by simpa using hcycle))

theorem effect_of_accepted {now : Float} {root new : Node} {m : Mutation}
    (h : m.verdict now root = .accepted new) : Effect now root m new := by
  have hruling := ruling_verdict now root m
  rw [h] at hruling
  cases hruling with
  | accepted effect => exact effect

theorem ne_protectedPath_of_refused {now : Float} {root : Node} {m : Mutation} {reason : Refusal}
    (h : m.verdict now root = .refused reason) : reason ≠ .protectedPath := by
  have hruling := ruling_verdict now root m
  rw [h] at hruling
  cases hruling with
  | refused ne => exact ne

/-! ## Consistency -/

theorem Effect.isConsistent {now : Float} {root new : Node} {m : Mutation}
    (he : Effect now root m new) (h : root.IsConsistent) : new.IsConsistent := by
  cases he with
  | write hg hl hs =>
    refine h.updateAt (Path.isNormal_normalize _) (Node.isDirectory_withContent _ _ _) ?_ ?_
    · intro name n hn
      exact hn.withContent hs now
    · intro n hn
      exact hn.withContent now _ _
  | createFile hn hg hl hk hs =>
    refine h.addChild (Path.isNormal_normalize _) hn ?_ ?_ now
    · exact ⟨rfl, hs⟩
    · rfl
  | createDirectory hn hg hl hk =>
    refine h.addChild (Path.isNormal_normalize _) hn ?_ ?_ now
    · rw [Node.isNamed_directory]
      simp
    · rw [Node.isPlaced_directory]
      simp
  | @delete path parent name node hg hs hne hc =>
    exact h.removeChild (Path.isNormal_split hs) now name
  | @rename path newName parent name node hg hs hne hn hc hnew =>
    have hnode := (h.isNamed_childAt hc).withName newName
    refine h.updateAt (Path.isNormal_split hs) (Node.isDirectory_withChildren _ _) ?_ ?_
    · intro nm n hm
      refine hm.withChildren (fun children hch => ?_) now
      exact (hch.erase name).put hn (hnode.relabel _ parent)
    · intro n hm
      refine hm.withChildren (fun children hch e hmem => ?_) now
      rcases Entries.mem_put hmem with hmem | rfl
      · exact hch e ((Entries.erase_sublist name children).subset hmem)
      · exact hnode.isPlaced_relabel _ parent
  | @move source newParent oldParent name dirName p mtime children node hg hg' hl hd hw hs hne hk =>
    rw [Node.lookup_normalize] at hl
    have hname := isProper_of_isWithin_eq_false hs hw
    have hnode := h.isNamed_lookup hl hs hname.1
    have hrem := h.removeChild (Path.isNormal_split hs) now name
    exact hrem.addChild (Path.isNormal_normalize _) hname (hnode.relabel _ _)
      (hnode.isPlaced_relabel _ _) now
  | @copy source newParent dirName p mtime children node hg hl hd hw =>
    obtain ⟨name, hname, hnode⟩ := exists_isNamed_of_isWithin_eq_false h hl hw
    have hproper := Name.isProper_forCopy hname (Entries.keys children)
    rw [hnode.name_eq]
    have hcopy := hnode.withName (Name.forCopy name (Entries.keys children))
    exact h.addChild (Path.isNormal_normalize _) hproper (hcopy.relabel _ _)
      (hcopy.isPlaced_relabel _ _) now

end Mutation

end VirtualShell
