import VirtualShell.Proofs.FileSystem.Relocation
/-
  How far a creation, a write and a deletion reach.

  Each of the three is an edit at one place. What is found there and below it is said by the edit,
  the directory of the place gets a new time and gains or loses one name, and at every other path
  the outline is the one that was there before. `IsAddition`, `IsRewriting` and `IsRemoval` are
  these laws; they speak of paths alone, so they hold whatever the trees look like inside.
-/

namespace VirtualShell

namespace Node

/-- A file with other content, of the size given, as of `now`. -/
def Outline.rewritten (now : Float) (content : Text) (size : Nat) (o : Outline) : Outline :=
  { o with mtime := now, size := size, content? := some content }

/-- The tree `after` is `before` with one node more: `made`, the last child of the directory `dir`,
with nothing below it. -/
structure IsAddition (now : Float) (before : Node) (dir name : Text) (made : Outline)
    (after : Node) : Prop where
  directory : (before.outline? dir).map Outline.isDirectory = some true
  free : before.outline? (Path.join dir name) = none
  made : after.outline? (Path.join dir name) = some made
  bare : ∀ path, Path.IsNormal path → Path.isWithin path (Path.join dir name) = true →
    path ≠ Path.join dir name → before.outline? path = none ∧ after.outline? path = none
  beside : ∀ path, Path.IsNormal path → Path.isWithin path (Path.join dir name) = false →
    after.outline? path = (before.outline? path).map fun o =>
      if path = dir then o.gaining now name else o

/-- The tree `after` is `before` with other content in the file at `path`. -/
structure IsRewriting (now : Float) (before : Node) (path content : Text) (size : Nat)
    (after : Node) : Prop where
  file : (before.outline? path).map Outline.isDirectory = some false
  written : after.outline? path = (before.outline? path).map (Outline.rewritten now content size)
  beside : ∀ other, Path.IsNormal other → other ≠ path →
    after.outline? other = before.outline? other

/-- The tree `after` is `before` without the child `name` of the directory `dir` and all that is
below it. -/
structure IsRemoval (now : Float) (before : Node) (dir name : Text) (after : Node) : Prop where
  directory : (before.outline? dir).map Outline.isDirectory = some true
  found : (before.outline? (Path.join dir name)).isSome
  gone : ∀ path, Path.IsNormal path → Path.isWithin path (Path.join dir name) = true →
    after.outline? path = none
  beside : ∀ path, Path.IsNormal path → Path.isWithin path (Path.join dir name) = false →
    after.outline? path = (before.outline? path).map fun o =>
      if path = dir then o.losing now name else o

variable {root child : Node} {dir name path dirName p : Text} {mtime now : Float}
  {children : List (Text × Node)}

/-- What is read at a path, however spelt, is the content that the outline there shows. -/
theorem content?_lookup (root : Node) (path : Text) :
    (root.lookup path).bind Node.content? =
      (root.outline? (Path.normalize path)).bind Outline.content? := by
  rw [outline?, lookup_normalize]
  cases root.lookup path <;> rfl

theorem IsRewriting.content?_written {before after : Node} {content : Text} {size : Nat}
    (h : IsRewriting now before path content size after) :
    (after.outline? path).bind Outline.content? = some content := by
  obtain ⟨old, hold, -⟩ := Option.map_eq_some_iff.mp h.file
  rw [h.written, hold]
  rfl

/-- Nothing is found below a node without children. -/
theorem at?_of_children_eq_nil (h : child.children = []) {keys : List Text} (hk : keys ≠ []) :
    child.at? keys = none := by
  cases keys with
  | nil => exact absurd rfl hk
  | cons key rest =>
    cases child with
    | file => rfl
    | directory dirName p mtime children =>
      obtain rfl : children = [] := h
      rfl

/-- A node without children that is put under a free name is an addition. -/
theorem isAddition_addChild (hdir : Path.IsNormal dir) (hn : Name.IsProper name)
    (hl : root.lookup dir = some (.directory dirName p mtime children))
    (hfree : name ∉ Entries.keys children) (hchild : child.children = []) (now : Float) :
    IsAddition now root dir name child.outline
      (root.addChild now (Path.segments dir) name child) := by
  have hplace := Path.isNormal_join hdir hn
  have hd : root.at? (Path.segments dir) = some (.directory dirName p mtime children) :=
    (root.lookup_eq_at? hdir).symm.trans hl
  have hnone : root.at? (Path.segments (Path.join dir name)) = none := by
    rw [hdir.segments_join hn]
    exact (notMem_keys_iff hd).mp hfree
  have hfound : (root.addChild now (Path.segments dir) name child).lookup (Path.join dir name) =
      some child := lookup_addChild hdir hn (by rw [hl]; rfl) child now
  refine ⟨?_, ?_, ?_, fun path hp hw hne => ?_, fun path hp hw => ?_⟩
  · rw [outline?, hl]
    rfl
  · rw [outline?_eq_at? hplace, hnone]
    rfl
  · rw [outline?, hfound]
    rfl
  · obtain ⟨names, hnames, rfl⟩ := (hp.isWithin_iff_extend hplace).mp hw
    have hbelow : names ≠ [] := by
      rintro rfl
      exact hne rfl
    refine ⟨outline?_extend_eq_none hplace hnone hnames, ?_⟩
    rw [outline?_extend hplace hfound hnames, at?_of_children_eq_nil hchild hbelow]
    rfl
  · refine outline?_addChild_beside hdir hn ?_ (by rw [hd]; rfl) hp hw
    exact (notMem_keys_iff hd).mp hfree

/-- Other content in a file is a rewriting. -/
theorem isRewriting_updateAt {old content : Text} {oldSize : Nat} (hp : Path.IsNormal path)
    (hl : root.lookup path = some (.file name p mtime old oldSize)) (now : Float) (size : Nat) :
    IsRewriting now root path content size
      (root.updateAt (Path.segments path) (withContent now content size)) := by
  have hat : root.at? (Path.segments path) = some (.file name p mtime old oldSize) :=
    (root.lookup_eq_at? hp).symm.trans hl
  refine ⟨?_, ?_, fun other ho hne => ?_⟩
  · rw [outline?, hl]
    rfl
  · rw [outline?_eq_at? hp, outline?_eq_at? hp, at?_updateAt_self, hat]
    rfl
  · rw [outline?_eq_at? ho, outline?_eq_at? ho]
    by_cases hprefix : Path.segments path <+: Path.segments other
    -- below a file there is nothing, neither before nor after
    · obtain ⟨more, hmore⟩ := hprefix
      have hbelow : more ≠ [] := by
        rintro rfl
        rw [List.append_nil] at hmore
        exact hne ((ho.segments_inj hp).mp hmore.symm)
      rw [← hmore, at?_updateAt_append, at?_append, hat]
      cases more with
      | nil => exact absurd rfl hbelow
      | cons => rfl
    · exact outline_updateAt_beside hprefix _ root

/-- A child taken away with all below it is a removal. -/
theorem isRemoval_removeChild (hc : root.IsConsistent) (hdir : Path.IsNormal dir)
    (hn : Name.IsProper name) (hchild : root.childAt dir name = some child) (now : Float) :
    IsRemoval now root dir name (root.removeChild now (Path.segments dir) name) := by
  obtain ⟨dirName, p, mtime, children, hl, -⟩ := childAt_eq_some hchild
  have hplace := Path.isNormal_join hdir hn
  have hd : root.at? (Path.segments dir) = some (.directory dirName p mtime children) :=
    (root.lookup_eq_at? hdir).symm.trans hl
  have hnamed := (isConsistent_iff.mp hc).2.1.at? hd
  rw [isNamed_directory] at hnamed
  refine ⟨?_, ?_, fun path hp hw => ?_, fun path hp hw => ?_⟩
  · rw [outline?, hl]
    rfl
  · rw [outline?, ← root.childAt_eq_lookup hdir hn, hchild]
    rfl
  · rw [hp.isWithin_iff hplace, hdir.segments_join hn] at hw
    obtain ⟨more, hmore⟩ := hw
    rw [outline?_eq_at? hp, ← hmore, List.append_assoc, List.singleton_append,
      at?_removeChild_within hd hnamed.2.1]
    rfl
  · rw [outline?_eq_at? hp, outline?_eq_at? hp,
      outline_removeChild_beside hd (hp.isWithin_join_eq_false hdir hn hw)]
    simp only [hp.segments_inj hdir]

end Node

namespace Mutation

open Node (IsAddition IsRewriting IsRemoval)

variable {now : Float} {root new : Node} {parent name path content : Text}

theorem Effect.isAddition_createFile (h : Effect now root (.createFile parent name content) new) :
    ∃ size, contentSize? content = some size ∧
      IsAddition now root (Path.normalize parent) name
        ⟨false, name, Path.join (Path.normalize parent) name, now, size, some content, []⟩ new := by
  cases h with
  | @createFile _ _ _ _ _ _ _ size hn hg hl hk hs =>
    let child : Node := .file name (Path.join (Path.normalize parent) name) now content size
    have hchild : child.children = [] := rfl
    exact ⟨size, hs,
      Node.isAddition_addChild (Path.isNormal_normalize parent) hn hl hk hchild now⟩

theorem Effect.isAddition_createDirectory (h : Effect now root (.createDirectory parent name) new) :
    IsAddition now root (Path.normalize parent) name
      ⟨true, name, Path.join (Path.normalize parent) name, now, 0, none, []⟩ new := by
  cases h with
  | createDirectory hn hg hl hk =>
    let child : Node := .directory name (Path.join (Path.normalize parent) name) now []
    have hchild : child.children = [] := rfl
    exact Node.isAddition_addChild (Path.isNormal_normalize parent) hn hl hk hchild now

theorem Effect.isRewriting (h : Effect now root (.write path content) new) :
    ∃ size, contentSize? content = some size ∧
      IsRewriting now root (Path.normalize path) content size new := by
  cases h with
  | write hg hl hs =>
    exact ⟨_, hs, Node.isRewriting_updateAt (Path.isNormal_normalize path) hl now _⟩

theorem Effect.isRemoval (h : Effect now root (.delete path) new) (hc : root.IsConsistent) :
    let old := Path.split (Path.normalize path)
    Path.normalize path = Path.join old.1 old.2 ∧ IsRemoval now root old.1 old.2 new := by
  cases h with
  | @delete _ parent name node hg hs hne hchild =>
    obtain ⟨hname, hjoin, -⟩ := Path.eq_join_of_split hs hne
    rw [hs]
    exact ⟨hjoin, Node.isRemoval_removeChild hc (Path.isNormal_split hs) hname hchild now⟩

end Mutation

end VirtualShell
