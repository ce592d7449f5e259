import VirtualShell.Proofs.FileSystem.Mutation
import VirtualShell.Proofs.Tree.Outline
/-
  What the guard keeps out, and what it leaves open.

  The guard is a test on the text of paths, the effect of a change is at the end of a walk along
  keys. What joins the two is that a normal path is protected exactly when its first key is that
  of the protected directory: a change that passes the guard goes into the tree by another
  key, or is one of the children of the root under another key.

  Of the changes that put a node somewhere, the guard asks different questions: a creation is
  asked for the path of the new node, the others only for the directory it goes into. So one
  place stays open to these, the one of the protected directory itself where there is none.
  `Mutation.place?` says beforehand where a node goes; `Effect.at_place` and
  `Effect.place?_eq_of_protected` say what is found there, and at protected paths, afterwards.
-/

namespace VirtualShell

/-- The key of the protected directory among the children of the root. -/
def protectedKey : Text := "System"

theorem isProtected_eq_false_iff {path : Text} (h : Path.IsNormal path) :
    isProtected path = false ↔ (Path.segments path).head? ≠ some protectedKey := by
  have hnormal : Path.IsNormal protectedDirectory := Path.isNormal_normalize protectedDirectory
  have hsegments : Path.segments protectedDirectory = [protectedKey] := by decide
  rw [← Bool.not_eq_true, isProtected, h.isWithin_iff hnormal, hsegments]
  apply not_congr
  cases Path.segments path with
  | nil => simp
  | cons key rest => simp [eq_comm]

/-- Below an unprotected directory the only protected place is one below the root. -/
theorem isProtected_join_iff {parent name : Text} (hp : Path.IsNormal parent)
    (hn : Name.IsProper name) (hg : isProtected parent = false) :
    isProtected (Path.join parent name) = true ↔ parent = Path.root ∧ name = protectedKey := by
  rw [isProtected_eq_false_iff hp] at hg
  rw [← Bool.not_eq_false, isProtected_eq_false_iff (Path.isNormal_join hp hn),
    hp.segments_join hn, ne_eq, Decidable.not_not]
  cases hsegs : Path.segments parent with
  | nil =>
    have hroot : parent = Path.root := by rw [← hp.render_segments, hsegs, Path.render_nil]
    simp [hroot]
  | cons key rest =>
    rw [hsegs] at hg
    refine iff_of_false hg ?_
    rintro ⟨rfl, -⟩
    simp at hsegs

namespace Node

theorem lookup_protected (root : Node) :
    root.lookup protectedDirectory = root.at? [protectedKey] := by
  have hsegments : Path.segments (Path.normalize protectedDirectory) = [protectedKey] := by decide
  rw [lookup, hsegments]

/-- Whether a change of the children of a node leaves the one that is under the protected key. -/
def SparesProtected (f : List (Text × Node) → List (Text × Node)) (n : Node) : Prop :=
  Entries.get? protectedKey (f n.children) = Entries.get? protectedKey n.children

theorem at?_withChildren {f : List (Text × Node) → List (Text × Node)} {n : Node}
    (h : SparesProtected f n) (now : Float) :
    (n.withChildren now f).at? [protectedKey] = n.at? [protectedKey] := by
  cases n with
  | file => rfl
  | directory name path mtime children =>
    simp only [SparesProtected, Node.children] at h
    simp only [withChildren, at?, h]

/-- A change of the children of the directory at unprotected keys spares what is protected,
if it does so in case the directory is the root. -/
theorem lookup_protected_withChildren {f : List (Text × Node) → List (Text × Node)} {root : Node}
    {keys : List Text} (hk : keys.head? ≠ some protectedKey)
    (h : keys = [] → SparesProtected f root) (now : Float) :
    (root.updateAt keys (withChildren now f)).lookup protectedDirectory =
      root.lookup protectedDirectory := by
  rw [lookup_protected, lookup_protected]
  cases keys with
  | nil => exact at?_withChildren (h rfl) now
  | cons key rest =>
    refine at?_updateAt_of_ne ?_ _ _ _ _
    rintro rfl
    exact hk rfl

/-- Trees with the same at the protected directory have the same at every protected path. -/
theorem lookup_eq_of_isProtected {root new : Node} {path : Text}
    (h : new.lookup protectedDirectory = root.lookup protectedDirectory)
    (hp : isProtected (Path.normalize path) = true) : new.lookup path = root.lookup path := by
  rw [← Bool.not_eq_false, isProtected_eq_false_iff (Path.isNormal_normalize path), ne_eq,
    Decidable.not_not, List.head?_eq_some_iff] at hp
  obtain ⟨rest, hsegs⟩ := hp
  rw [lookup_protected, lookup_protected] at h
  rw [lookup, lookup, hsegs, ← List.singleton_append, at?_append, at?_append, h]

theorem ne_protectedKey {root n : Node} {name : Text}
    (hn : root.lookup protectedDirectory = some n) (hk : name ∉ Entries.keys root.children) :
    name ≠ protectedKey := by
  rintro rfl
  rw [lookup_protected] at hn
  cases root with
  | file => cases hn
  | directory dirName path mtime children =>
    simp only [at?, Option.bind_eq_bind, Option.bind_eq_some_iff] at hn
    obtain ⟨child, hc, -⟩ := hn
    exact hk (Entries.mem_keys_of_mem (Entries.mem_of_get? hc))

theorem lookup_of_segments_eq_nil {root : Node} {path : Text} (hp : Path.IsNormal path)
    (h : Path.segments path = []) : root.lookup path = some root := by
  rw [lookup_eq_at? root hp, h, at?_nil]

/-- A name for which a directory outside the protected one has no entry. -/
structure IsVacant (root : Node) (parent name : Text) : Prop where
  isNormal : Path.IsNormal parent
  unprotected : isProtected parent = false
  free : ∃ dirName p mtime children,
    root.lookup parent = some (.directory dirName p mtime children) ∧ name ∉ Entries.keys children

theorem IsVacant.childAt {root : Node} {parent name : Text} (h : root.IsVacant parent name) :
    root.childAt parent name = none := by
  obtain ⟨dirName, p, mtime, children, hl, hk⟩ := h.free
  rw [Node.childAt, directoryAt, hl]
  exact Entries.get?_eq_none_iff.mpr hk

/-- Where the protected directory exists, its place is not vacant. -/
theorem IsVacant.ne_protectedKey {root n : Node} {parent name : Text}
    (h : root.IsVacant parent name) (hn : root.lookup protectedDirectory = some n)
    (hroot : Path.segments parent = []) : name ≠ protectedKey := by
  obtain ⟨dirName, p, mtime, children, hl, hk⟩ := h.free
  rw [lookup_of_segments_eq_nil h.isNormal hroot, Option.some.injEq] at hl
  refine Node.ne_protectedKey hn ?_
  rw [hl]
  exact hk

end Node

namespace Mutation

open Node (SparesProtected)

theorem sparesProtected_put {name : Text} (h : name ≠ protectedKey) (child root : Node) :
    SparesProtected (Entries.put name child) root := Entries.get?_put_of_ne h.symm child _

theorem sparesProtected_erase {name : Text} (h : name ≠ protectedKey) (root : Node) :
    SparesProtected (Entries.erase name) root := Entries.get?_erase_of_ne h.symm _

/-- What the guard tells of the directory that an unprotected path lies in, and of its name. -/
theorem unprotected_of_segments {path name : Text} {keys : List Text} (hp : Path.IsNormal path)
    (hs : Path.segments path = keys ++ [name]) (hg : isProtected path = false) :
    keys.head? ≠ some protectedKey ∧ (keys = [] → name ≠ protectedKey) := by
  rw [isProtected_eq_false_iff hp, hs] at hg
  cases keys with
  | nil => exact ⟨by simp, fun _ e => hg (by simp [e])⟩
  | cons key rest => exact ⟨hg, fun e => by cases e⟩

theorem unprotected_of_split {path parent name : Text}
    (hg : isProtected (Path.normalize path) = false)
    (hs : Path.split (Path.normalize path) = (parent, name)) (hne : name ≠ []) :
    (Path.segments parent).head? ≠ some protectedKey ∧
      (Path.segments parent = [] → name ≠ protectedKey) :=
  unprotected_of_segments (Path.isNormal_normalize path) (Path.eq_join_of_split hs hne).2.2 hg

/-! ## Where a change puts a node -/

/-- The directory that a change puts a node into, and the name that the node gets there. -/
def place? (root : Node) : Mutation → Option (Text × Text)
  | createFile parent name _ => some (Path.normalize parent, name)
  | createDirectory parent name => some (Path.normalize parent, name)
  | rename path newName => some ((Path.split (Path.normalize path)).1, newName)
  | move source newParent =>
    some (Path.normalize newParent, (Path.split (Path.normalize source)).2)
  | copy source newParent => do
    let node ← root.lookup source
    let directory ← root.lookup newParent
    return (Path.normalize newParent, Name.forCopy node.name (Entries.keys directory.children))
  | write .. => none
  | delete .. => none

/-- Whether a change makes a node that was nowhere before. -/
def isCreation : Mutation → Bool
  | createFile .. => true
  | createDirectory .. => true
  | _ => false

theorem isVacant_of_creation {root : Node} {parent name dirName p : Text} {mtime : Float}
    {children : List (Text × Node)} (hn : Name.IsProper name)
    (hg : isProtected (Path.join (Path.normalize parent) name) = false)
    (hl : root.lookup (Path.normalize parent) = some (.directory dirName p mtime children))
    (hk : name ∉ Entries.keys children) : root.IsVacant (Path.normalize parent) name := by
  have hp := Path.isNormal_normalize parent
  have hguard := unprotected_of_segments (Path.isNormal_join hp hn) (hp.segments_join hn) hg
  exact ⟨hp, (isProtected_eq_false_iff hp).mpr hguard.1, _, _, _, _, hl, hk⟩

/-- An accepted change puts its node where nothing was, outside the protected directory. -/
theorem Effect.isVacant {now : Float} {root new : Node} {m : Mutation} {parent name : Text}
    (h : Effect now root m new) (hplace : m.place? root = some (parent, name)) :
    root.IsVacant parent name := by
  cases h with
  | write | delete => cases hplace
  | createFile hn hg hl hk hs =>
    cases hplace
    exact isVacant_of_creation hn hg hl hk
  | createDirectory hn hg hl hk =>
    cases hplace
    exact isVacant_of_creation hn hg hl hk
  | @rename path newName oldParent oldName node hg hs hne hproper hc hnew =>
    rw [place?, hs] at hplace
    cases hplace
    have hp := Path.isNormal_split hs
    obtain ⟨dirName, p, mtime, children, hl, -⟩ := Node.childAt_eq_some hc
    refine ⟨hp, (isProtected_eq_false_iff hp).mpr (unprotected_of_split hg hs hne).1,
      dirName, p, mtime, children, hl, ?_⟩
    rw [Node.childAt, Node.directoryAt, hl] at hnew
    exact Entries.get?_eq_none_iff.mp hnew
  | @move source newParent oldParent oldName dirName p mtime children node hg hg' hl hd hw hs hne hk =>
    rw [place?, hs] at hplace
    cases hplace
    exact ⟨Path.isNormal_normalize newParent, hg', dirName, p, mtime, children, hd, hk⟩
  | @copy source newParent dirName p mtime children node hg hl hd hw =>
    rw [Node.lookup_normalize] at hl hd
    rw [place?, hl, hd] at hplace
    cases hplace
    rw [← Node.lookup_normalize] at hd
    exact ⟨Path.isNormal_normalize newParent, hg, dirName, p, mtime, children, hd,
      Name.forCopy_not_mem node.name (Entries.keys children)⟩

/-- A creation is asked for the path of the new node, so none is made at a protected path. -/
theorem Effect.isCreation_eq_false {now : Float} {root new : Node} {m : Mutation}
    {parent name : Text} (h : Effect now root m new)
    (hplace : m.place? root = some (parent, name))
    (hg : isProtected (Path.join parent name) = true) : m.isCreation = false := by
  cases h with
  | createFile _ hfree | createDirectory _ hfree =>
    cases hplace
    rw [hfree] at hg
    cases hg
  | _ => rfl

/-- An accepted change that puts nothing at the protected path leaves what is there, with all
below it, and leaves it missing if it is. -/
theorem Effect.lookup_protected_of_place {now : Float} {root new : Node} {m : Mutation}
    (h : Effect now root m new)
    (hfree : ∀ parent name, m.place? root = some (parent, name) →
      Path.segments parent = [] → name ≠ protectedKey) :
    new.lookup protectedDirectory = root.lookup protectedDirectory := by
  -- the directory that the node goes into is a safe one, whatever the change
  have vacant : ∀ {parent name : Text}, m.place? root = some (parent, name) →
      (Path.segments parent).head? ≠ some protectedKey := fun hplace =>
    (isProtected_eq_false_iff (h.isVacant hplace).isNormal).mp (h.isVacant hplace).unprotected
  cases h with
  | @write path content name p mtime old oldSize size hg hl hs =>
    have hp := Path.isNormal_normalize path
    rw [isProtected_eq_false_iff hp] at hg
    rw [Node.lookup_protected, Node.lookup_protected]
    cases hsegs : Path.segments (Path.normalize path) with
    | nil =>
      -- a root that can be written is a file and has nothing below it
      rw [Node.lookup_of_segments_eq_nil hp hsegs, Option.some.injEq] at hl
      subst hl
      rfl
    | cons key rest =>
      refine Node.at?_updateAt_of_ne ?_ _ _ _ _
      rintro rfl
      exact hg (by rw [hsegs]; rfl)
  | createFile | createDirectory =>
    exact Node.lookup_protected_withChildren (vacant rfl)
      (fun hroot => sparesProtected_put (hfree _ _ rfl hroot) _ root) now
  | @delete path parent name node hg hs hne hc =>
    obtain ⟨hhead, hname⟩ := unprotected_of_split hg hs hne
    exact Node.lookup_protected_withChildren hhead
      (fun hroot => sparesProtected_erase (hname hroot) root) now
  | @rename path newName parent name node hg hs hne hproper hc hnew =>
    obtain ⟨hhead, hname⟩ := unprotected_of_split hg hs hne
    have hplace : (Mutation.rename path newName).place? root = some (parent, newName) := by rw [place?, hs]
    refine Node.lookup_protected_withChildren hhead (fun hroot => ?_) now
    rw [SparesProtected, Entries.get?_put_of_ne (hfree _ _ hplace hroot).symm,
      Entries.get?_erase_of_ne (hname hroot).symm]
  | @move source newParent oldParent name dirName p mtime children node hg hg' hl hd hw hs hne hk =>
    have hproper := isProper_of_isWithin_eq_false hs hw
    obtain ⟨hhead, hname⟩ := unprotected_of_split hg hs hproper.1
    have hplace : (Mutation.move source newParent).place? root =
        some (Path.normalize newParent, name) := by
      rw [place?, hs]
    -- the tree that the node is put into is one from which it was removed
    have hremoved := Node.lookup_protected_withChildren hhead
      (fun hroot => sparesProtected_erase (hname hroot) root) now
    rw [← hremoved]
    exact Node.lookup_protected_withChildren (vacant hplace)
      (fun hroot => sparesProtected_put (hfree _ _ hplace hroot) _ _) now
  | @copy source newParent dirName p mtime children node hg hl hd hw =>
    have hplace : (Mutation.copy source newParent).place? root =
        some (Path.normalize newParent, Name.forCopy node.name (Entries.keys children)) := by
      rw [Node.lookup_normalize] at hl hd
      rw [place?, hl, hd]
      rfl
    exact Node.lookup_protected_withChildren (vacant hplace)
      (fun hroot => sparesProtected_put (hfree _ _ hplace hroot) _ root) now

/-- An accepted change leaves what stands at the protected path, with all below it. -/
theorem Effect.lookup_protected {now : Float} {root new n : Node} {m : Mutation}
    (h : Effect now root m new) (hn : root.lookup protectedDirectory = some n) :
    new.lookup protectedDirectory = some n := by
  rw [h.lookup_protected_of_place, hn]
  intro parent name hplace hroot
  exact (h.isVacant hplace).ne_protectedKey hn hroot

/-! ## What is found there -/

/-- The node is found at its place when the change has been made. -/
theorem Effect.lookup_place {now : Float} {root new : Node} {m : Mutation} {parent name : Text}
    (h : Effect now root m new) (hc : root.IsConsistent)
    (hplace : m.place? root = some (parent, name)) :
    Name.IsProper name ∧ ∃ n, new.lookup (Path.join parent name) = some n := by
  have hp := (h.isVacant hplace).isNormal
  cases h with
  | write | delete => cases hplace
  | createFile hn hg hl | createDirectory hn hg hl =>
    cases hplace
    exact ⟨hn, _, Node.lookup_addChild hp hn (by rw [hl]; rfl) _ now⟩
  | @rename path newName oldParent oldName node hg hs hne hproper hchild hnew =>
    rw [place?, hs] at hplace
    cases hplace
    obtain ⟨dirName, p, mtime, children, hl, -⟩ := Node.childAt_eq_some hchild
    have hfound := Node.lookup_withChildren hp hproper hl (fun children =>
      Entries.put name ((node.withName name).relabel oldParent (some now))
        (Entries.erase oldName children)) now
    exact ⟨hproper, _, hfound.trans (Entries.get?_put_self _ _ _)⟩
  | @move source newParent oldParent oldName dirName p mtime children node hg hg' hl hd hw hs hne hk =>
    rw [place?, hs] at hplace
    cases hplace
    have hproper := isProper_of_isWithin_eq_false hs hw
    -- the directory does not lie within what is taken away, so it is still there
    have houtside : ¬ (Path.segments oldParent ++ [oldName]) <+:
        Path.segments (Path.normalize newParent) := by
      rw [← (Path.eq_join_of_split hs hproper.1).2.2,
        ← hp.isWithin_iff (Path.isNormal_normalize source), hw]
      exact Bool.false_ne_true
    refine ⟨hproper, _, Node.lookup_addChild hp hproper ?_ _ now⟩
    rw [Node.lookup_eq_at? _ hp] at hd ⊢
    rw [Node.isDirectory_at?_removeChild now oldName houtside, hd]
    rfl
  | @copy source newParent dirName p mtime children node hg hl hd hw =>
    obtain ⟨sourceName, hproper, hnode⟩ := exists_isNamed_of_isWithin_eq_false hc hl hw
    rw [Node.lookup_normalize] at hl
    rw [place?, hl, ← Node.lookup_normalize, hd] at hplace
    cases hplace
    rw [hnode.name_eq]
    have hfree := Name.isProper_forCopy hproper (Entries.keys children)
    exact ⟨hfree, _, Node.lookup_addChild hp hfree (by rw [hd]; rfl) _ now⟩

/-- Where the node goes there was nothing, and then there is the node, with the place as its path.
If the place is protected, it is that of the protected directory, and the node is not new. -/
theorem Effect.at_place {now : Float} {root new : Node} {m : Mutation} {parent name : Text}
    (h : Effect now root m new) (hc : root.IsConsistent)
    (hplace : m.place? root = some (parent, name)) :
    root.lookup (Path.join parent name) = none ∧
    (∃ n, new.lookup (Path.join parent name) = some n ∧ n.path = Path.join parent name) ∧
    (isProtected (Path.join parent name) = true →
      Path.join parent name = protectedDirectory ∧ m.isCreation = false) := by
  have hvacant := h.isVacant hplace
  have hp := hvacant.isNormal
  obtain ⟨hproper, n, hn⟩ := h.lookup_place hc hplace
  refine ⟨?_, ⟨n, hn, ?_⟩, fun hg => ⟨?_, h.isCreation_eq_false hplace hg⟩⟩
  · rw [← root.childAt_eq_lookup hp hproper, hvacant.childAt]
  · rw [((h.isConsistent hc).lookup_eq_some_iff.mp hn).2,
      (Path.isNormal_join hp hproper).normalize_eq]
  · obtain ⟨rfl, rfl⟩ := (isProtected_join_iff hp hproper hvacant.unprotected).mp hg
    rfl

/-- A protected path comes into being only when a node that was elsewhere takes the place of the
missing protected directory. -/
theorem Effect.place?_eq_of_protected {now : Float} {root new : Node} {m : Mutation} {path : Text}
    (h : Effect now root m new) (hc : root.IsConsistent)
    (hg : isProtected (Path.normalize path) = true) (hbefore : root.lookup path = none)
    (hafter : new.lookup path ≠ none) :
    m.place? root = some (Path.root, protectedKey) ∧ m.isCreation = false ∧
      root.lookup protectedDirectory = none := by
  by_cases hplace : m.place? root = some (Path.root, protectedKey)
  · obtain ⟨hnone, -, hcreation⟩ := h.at_place hc hplace
    exact ⟨hplace, (hcreation rfl).2, hnone⟩
  · -- nothing is put at the protected directory, so nothing changes there or below
    have hkept := h.lookup_protected_of_place fun parent name hput hroot => by
      rintro rfl
      rw [← (h.isVacant hput).isNormal.render_segments, hroot, Path.render_nil] at hput
      exact hplace hput
    rw [Node.lookup_eq_of_isProtected hkept hg] at hafter
    exact absurd hbefore hafter

end Mutation

end VirtualShell
