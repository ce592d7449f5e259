import VirtualShell.Proofs.FileSystem.Mutation
import VirtualShell.Proofs.Tree.Outline
/-
  Where a move, a rename and a copy take what they find.

  A move and a rename are one thing: a node is taken from its directory and put in somewhere
  under a name, in another directory under its own or in the same under another. `IsRelocation`
  is what the two have in common, and its laws say what is found at each path afterwards: at the
  new place and below (`outline?_within`), at the old one and below (`outline?_gone`), and
  anywhere else (`outline?_beside`). A copy takes nothing away, so only the first and the last are
  left to say, for the one child that is put in.
-/

namespace VirtualShell

namespace Path

theorem IsNormal.isWithin_join_eq_false {path dir name : Text} (hp : IsNormal path)
    (hd : IsNormal dir) (hn : Name.IsProper name) (h : isWithin path (join dir name) = false) :
    ¬ (segments dir ++ [name]) <+: segments path := by
  rw [← hd.segments_join hn, ← hp.isWithin_iff (isNormal_join hd hn), h]
  exact Bool.false_ne_true

end Path

namespace Node

variable {root node : Node} {path dir name newName : Text} {names : List Text} {now : Float}

/-- Below a node that a path leads to is what is below it in the tree. -/
theorem outline?_extend (hp : Path.IsNormal path) (hl : root.lookup path = some node)
    (hn : ∀ n ∈ names, Name.IsProper n) :
    root.outline? (Path.extend path names) = (node.at? names).map outline := by
  rw [lookup_eq_at? root hp] at hl
  rw [outline?_eq_at? (Path.isNormal_extend hp hn), hp.segments_extend hn, at?_append, hl]
  rfl

theorem IsNamed.called_outline (h : node.IsNamed name) :
    node.outline.called name = node.outline := by
  rw [← h.name_eq]
  rfl

/-- A node that is put in under a name, with the labels of its new place, is found there with all
below it. -/
theorem outline?_addChild_within (hdir : Path.IsNormal dir) (hnew : Name.IsProper newName)
    (hd : (root.at? (Path.segments dir)).map isDirectory = some true) (hnode : node.IsNamed name)
    (hn : ∀ n ∈ names, Name.IsProper n) :
    (root.addChild now (Path.segments dir) newName
        ((node.withName newName).relabel dir (some now))).outline?
          (Path.extend (Path.join dir newName) names) =
      ((node.at? names).map outline).map fun o => Outline.placed now
        (Path.extend (Path.join dir newName) names)
          (if names = [] then o.called newName else o) := by
  have hr := Path.isNormal_join hdir hnew
  obtain ⟨dirName, p, mtime, children, hd⟩ := exists_eq_directory hd
  rw [outline?_eq_at? (Path.isNormal_extend hr hn), hr.segments_extend hn,
    hdir.segments_join hnew, List.append_assoc, List.singleton_append, at?_addChild_within hd,
    outline_relabel_withName now names dir newName hnode]

/-- A node that is put in is seen nowhere but at its place and below, and in the directory that it
is put into. -/
theorem outline?_addChild_beside (hdir : Path.IsNormal dir) (hnew : Name.IsProper newName)
    (hfree : root.at? (Path.segments dir ++ [newName]) = none)
    (hd : (root.at? (Path.segments dir)).map isDirectory = some true) (hp : Path.IsNormal path)
    (hw : Path.isWithin path (Path.join dir newName) = false) :
    (root.addChild now (Path.segments dir) newName node).outline? path =
      (root.outline? path).map fun o => if path = dir then o.gaining now newName else o := by
  obtain ⟨dirName, p, mtime, children, hd⟩ := exists_eq_directory hd
  rw [outline?_eq_at? hp, outline?_eq_at? hp, outline_addChild_beside hd
    ((notMem_keys_iff hd).mpr hfree) (hp.isWithin_join_eq_false hdir hnew hw)]
  simp only [hp.segments_inj hdir]

/-- Where nothing is, nothing is below. -/
theorem outline?_extend_eq_none (hp : Path.IsNormal path) (hl : root.at? (Path.segments path) = none)
    (hn : ∀ n ∈ names, Name.IsProper n) : root.outline? (Path.extend path names) = none := by
  rw [outline?_eq_at? (Path.isNormal_extend hp hn), hp.segments_extend hn, at?_append, hl]
  rfl

end Node

namespace Mutation

open Node (Outline)

/-- The tree `new` is `root` with the node `name` of the directory `parent` put into the directory
`dir` as `newName`. -/
structure IsRelocation (now : Float) (root : Node) (parent name dir newName : Text) (new : Node) :
    Prop where
  isNormal_parent : Path.IsNormal parent
  isProper_name : Name.IsProper name
  isNormal_dir : Path.IsNormal dir
  isProper_newName : Name.IsProper newName
  isTransplant :
    root.IsTransplant (Path.segments parent) name (Path.segments dir) newName
  made : ∃ node, root.lookup (Path.join parent name) = some node ∧ node.IsNamed name ∧
    new = (root.removeChild now (Path.segments parent) name).addChild now (Path.segments dir)
      newName ((node.withName newName).relabel dir (some now))

namespace IsRelocation

variable {now : Float} {root new : Node} {parent name dir newName path : Text} {names : List Text}

/-- Beforehand there is a node at the old place, a directory for it, and nothing at the new one. -/
theorem outline?_before (h : IsRelocation now root parent name dir newName new) :
    (root.outline? (Path.join parent name)).isSome ∧
      (root.outline? dir).map Outline.isDirectory = some true ∧
      root.outline? (Path.join dir newName) = none := by
  have hold := Path.isNormal_join h.isNormal_parent h.isProper_name
  have hnew := Path.isNormal_join h.isNormal_dir h.isProper_newName
  rw [Node.outline?_eq_at? hold, Node.outline?_eq_at? h.isNormal_dir, Node.outline?_eq_at? hnew,
    h.isNormal_parent.segments_join h.isProper_name,
    h.isNormal_dir.segments_join h.isProper_newName, h.isTransplant.free, Option.map_map,
    Option.isSome_map]
  exact ⟨h.isTransplant.source, h.isTransplant.target, rfl⟩

/-- At the new place and below is what was at the old one, with the labels of its new place. -/
theorem outline?_within (h : IsRelocation now root parent name dir newName new)
    (hn : ∀ n ∈ names, Name.IsProper n) :
    new.outline? (Path.extend (Path.join dir newName) names) =
      (root.outline? (Path.extend (Path.join parent name) names)).map fun o =>
        Outline.placed now (Path.extend (Path.join dir newName) names)
          (if names = [] then o.called newName else o) := by
  obtain ⟨node, hl, hnamed, rfl⟩ := h.made
  obtain ⟨dirName, p, mtime, children, hd, -⟩ := h.isTransplant.target_removeChild now
  rw [Node.outline?_extend (Path.isNormal_join h.isNormal_parent h.isProper_name) hl hn]
  exact Node.outline?_addChild_within h.isNormal_dir h.isProper_newName (by rw [hd]; rfl) hnamed hn

/-- A node that keeps its name shows it at the new place too. -/
theorem outline?_within_of_same (h : IsRelocation now root parent name dir name new)
    (hn : ∀ n ∈ names, Name.IsProper n) :
    new.outline? (Path.extend (Path.join dir name) names) =
      (root.outline? (Path.extend (Path.join parent name) names)).map
        (Outline.placed now (Path.extend (Path.join dir name) names)) := by
  rw [h.outline?_within hn]
  cases names with
  | cons => rfl
  | nil =>
    obtain ⟨node, hl, hnamed, -⟩ := h.made
    simp only [Path.extend_nil, Node.outline?, hl, Option.map_some, if_true,
      hnamed.called_outline]

/-- Nothing is left at the old place or below. -/
theorem outline?_gone (h : IsRelocation now root parent name dir newName new)
    (hp : Path.IsNormal path) (hw : Path.isWithin path (Path.join parent name) = true) :
    new.outline? path = none := by
  obtain ⟨node, -, -, rfl⟩ := h.made
  rw [hp.isWithin_iff (Path.isNormal_join h.isNormal_parent h.isProper_name),
    h.isNormal_parent.segments_join h.isProper_name] at hw
  rw [Node.outline?_eq_at? hp, h.isTransplant.at?_gone hw]
  rfl

/-- The two directories, and all that is neither at the old place nor at the new one nor below. -/
theorem outline?_beside (h : IsRelocation now root parent name dir newName new)
    (hp : Path.IsNormal path) (hold : Path.isWithin path (Path.join parent name) = false)
    (hnew : Path.isWithin path (Path.join dir newName) = false) :
    new.outline? path = ((root.outline? path).map fun o =>
      if path = parent then o.losing now name else o).map fun o =>
        if path = dir then o.gaining now newName else o := by
  obtain ⟨node, -, -, rfl⟩ := h.made
  have hbeside : (((root.removeChild now (Path.segments parent) name).addChild now
      (Path.segments dir) newName ((node.withName newName).relabel dir (some now))).at?
        (Path.segments path)).map Node.outline = _ := h.isTransplant.outline_beside
    (hp.isWithin_join_eq_false h.isNormal_parent h.isProper_name hold)
    (hp.isWithin_join_eq_false h.isNormal_dir h.isProper_newName hnew)
  simp only [hp.segments_inj h.isNormal_parent, hp.segments_inj h.isNormal_dir] at hbeside
  rw [Node.outline?_eq_at? hp, Node.outline?_eq_at? hp, hbeside]

/-- The two directories and all the rest, when the directories are not the same. -/
theorem outline?_beside_of_ne (h : IsRelocation now root parent name dir newName new)
    (hne : parent ≠ dir) (hp : Path.IsNormal path)
    (hold : Path.isWithin path (Path.join parent name) = false)
    (hnew : Path.isWithin path (Path.join dir newName) = false) :
    new.outline? path = (root.outline? path).map fun o =>
      if path = parent then o.losing now name
      else if path = dir then o.gaining now newName
      else o := by
  rw [h.outline?_beside hp hold hnew, Option.map_map]
  refine congrArg (Option.map · _) (funext fun o => ?_)
  by_cases hpath : path = parent
  · simp only [Function.comp_apply, hpath, if_true, if_neg hne]
  · simp only [Function.comp_apply, if_neg hpath]

/-- The directory and all the rest, when it is one and the same. -/
theorem outline?_beside_of_same (h : IsRelocation now root dir name dir newName new)
    (hp : Path.IsNormal path) (hold : Path.isWithin path (Path.join dir name) = false)
    (hnew : Path.isWithin path (Path.join dir newName) = false) :
    new.outline? path = (root.outline? path).map fun o =>
      if path = dir then (o.losing now name).gaining now newName else o := by
  rw [h.outline?_beside hp hold hnew, Option.map_map]
  refine congrArg (Option.map · _) (funext fun o => ?_)
  by_cases hpath : path = dir
  · simp only [Function.comp_apply, if_pos hpath]
  · simp only [Function.comp_apply, if_neg hpath]

end IsRelocation

/-! ## The changes that put a node elsewhere -/

section Effects

variable {now : Float} {root new : Node} {source newParent path newName : Text} {names : List Text}

/-- A move takes a node to another directory, where it keeps its name. -/
theorem Effect.relocation_move (h : Effect now root (.move source newParent) new)
    (hc : root.IsConsistent) :
    let old := Path.split (Path.normalize source)
    Path.normalize source = Path.join old.1 old.2 ∧ old.1 ≠ Path.normalize newParent ∧
      IsRelocation now root old.1 old.2 (Path.normalize newParent) old.2 new := by
  cases h with
  | @move _ _ parent name dirName p mtime children node hg hg' hl hd hw hs hne hk =>
    have hname := isProper_of_isWithin_eq_false hs hw
    obtain ⟨-, hjoin, hsegs⟩ := Path.eq_join_of_split hs hname.1
    rw [Node.lookup_normalize] at hl hd
    have hnamed := hc.isNamed_lookup hl hs hname.1
    have hdir := Path.isNormal_normalize newParent
    have htransplant : root.IsTransplant (Path.segments parent) name
        (Path.segments (Path.normalize newParent)) name := by
      refine ⟨(Node.isConsistent_iff.mp hc).2.1, ?_, ?_, ?_, (Node.notMem_keys_iff hd).mp hk⟩
      · rw [← hsegs]
        exact Option.isSome_iff_exists.mpr ⟨node, hl⟩
      · exact congrArg (Option.map Node.isDirectory) hd
      · rw [← hsegs, ← hdir.isWithin_iff (Path.isNormal_normalize source), hw]
        exact Bool.false_ne_true
    rw [hs]
    refine ⟨hjoin, hne, Path.isNormal_split hs, hname, hdir, hname, htransplant, node, ?_, hnamed,
      ?_⟩
    · rw [← hjoin, Node.lookup_normalize, hl]
    · rw [hnamed.withName_eq_self]

/-- A rename takes a node to another name in its own directory. -/
theorem Effect.relocation_rename (h : Effect now root (.rename path newName) new)
    (hc : root.IsConsistent) :
    let old := Path.split (Path.normalize path)
    Path.normalize path = Path.join old.1 old.2 ∧
      IsRelocation now root old.1 old.2 old.1 newName new := by
  cases h with
  | @rename _ _ parent name node hg hs hne hproper hchild hfree =>
    obtain ⟨hname, hjoin, hsegs⟩ := Path.eq_join_of_split hs hne
    have hparent := Path.isNormal_split hs
    obtain ⟨dirName, p, mtime, children, hd, hentry⟩ := Node.childAt_eq_some hchild
    have hl := hchild
    rw [Node.childAt_eq_lookup root hparent hname] at hl
    have htransplant : root.IsTransplant (Path.segments parent) name
        (Path.segments parent) newName := by
      rw [Node.lookup_join root hparent hname] at hl
      rw [Node.childAt_eq_lookup root hparent hproper, Node.lookup_join root hparent hproper]
        at hfree
      rw [Node.lookup_eq_at? root hparent] at hd
      refine ⟨(Node.isConsistent_iff.mp hc).2.1, Option.isSome_iff_exists.mpr ⟨node, hl⟩,
        congrArg (Option.map Node.isDirectory) hd, ?_, hfree⟩
      intro hprefix
      have hlength := hprefix.length_le
      rw [List.length_append, List.length_singleton] at hlength
      omega
    rw [hs]
    refine ⟨hjoin, hparent, hname, hparent, hproper, htransplant, node, hl,
      hc.isNamed_childAt hchild, ?_⟩
    rw [Node.addChild, Node.removeChild, Node.updateAt_updateAt]
    simp only [Node.withChildren_withChildren]

/-- What a copy puts in is what its source was, under a name that was free; the directory that it
comes into gains it, and nothing else is touched. -/
theorem Effect.outline?_copy (h : Effect now root (.copy source newParent) new)
    (hc : root.IsConsistent) : ∃ node directory,
      root.lookup source = some node ∧ root.directoryAt newParent = some directory ∧
      let name := Name.forCopy node.name (Entries.keys directory.children)
      let place := Path.join (Path.normalize newParent) name
      (∀ names, (∀ n ∈ names, Name.IsProper n) →
        root.outline? (Path.extend place names) = none ∧
        new.outline? (Path.extend place names) =
          (root.outline? (Path.extend (Path.normalize source) names)).map fun o =>
            Outline.placed now (Path.extend place names)
              (if names = [] then o.called name else o)) ∧
      ∀ path, Path.IsNormal path → Path.isWithin path place = false →
        new.outline? path = (root.outline? path).map fun o =>
          if path = Path.normalize newParent then o.gaining now name else o := by
  cases h with
  | @copy _ _ dirName p mtime children node hg hl hd hw =>
    obtain ⟨oldName, hold, hnamed⟩ := exists_isNamed_of_isWithin_eq_false hc hl hw
    have hproper := Name.isProper_forCopy hold (Entries.keys children)
    rw [← hnamed.name_eq] at hproper
    have hdir := Path.isNormal_normalize newParent
    have hat : root.at? (Path.segments (Path.normalize newParent)) =
        some (.directory dirName p mtime children) := by
      rw [Node.lookup_normalize] at hd
      exact hd
    have hfree : root.at? (Path.segments (Path.normalize newParent) ++
        [Name.forCopy node.name (Entries.keys children)]) = none :=
      (Node.notMem_keys_iff hat).mp (Name.forCopy_not_mem node.name (Entries.keys children))
    have hdirectory := congrArg (Option.map Node.isDirectory) hat
    refine ⟨node, .directory dirName p mtime children, ?_, ?_, fun names hn => ⟨?_, ?_⟩,
      fun path hp hw => Node.outline?_addChild_beside hdir hproper hfree hdirectory hp hw⟩
    · rw [← hl, Node.lookup_normalize]
    · rw [Node.directoryAt, ← Node.lookup_normalize, hd]
      rfl
    · refine Node.outline?_extend_eq_none (Path.isNormal_join hdir hproper) ?_ hn
      exact (congrArg (Node.at? · root) (hdir.segments_join hproper)).trans hfree
    · rw [Node.outline?_extend (Path.isNormal_normalize source) hl hn]
      exact Node.outline?_addChild_within hdir hproper hdirectory hnamed hn

end Effects

end Mutation

end VirtualShell
