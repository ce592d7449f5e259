import VirtualShell.Proofs.FileSystem.Relocation
import VirtualShell.Proofs.Session.Placed
/-
  The tree after a move, a rename and a copy that were answered with yes.

  Each theorem says what is found at every path: at the place that the node was put and below,
  at the place that it was taken from and below, and anywhere else. Paths go by their normal form,
  whatever spelling was used for the call, and the paths at a place and below are those that
  proper names lead to from there.
-/

namespace VirtualShell.Session

open Node (Outline)

variable {ω : Type}

theorem effect_of_change {s : Session ω} {m : Mutation} (hmade : (change m s).1 = .ok true) :
    Mutation.Effect s.now s.volume.root m (change m s).2.volume.root := Volume.effect_of_apply hmade

/-- A node that is moved comes to its new directory with all below it, each node under its new path
and with the time of the move, otherwise as it was. Nothing is left where it was. Of all other
nodes only the two directories change, one by losing the child and one by gaining it as its
last, also where one of the two lies above the other. -/
theorem outlines_after_move {s : Session ω} (h : Reachable s) {source newParent : Text}
    (hmade : (change (.move source newParent) s).1 = .ok true) :
    let before := s.volume.root
    let after := (change (.move source newParent) s).2.volume.root
    let old := Path.normalize source
    let parent := (Path.split old).1
    let name := (Path.split old).2
    let target := Path.normalize newParent
    let place := Path.join target name
    (old = Path.join parent name ∧ (before.outline? old).isSome ∧
      (before.outline? target).map Outline.isDirectory = some true ∧
      before.outline? place = none) ∧
    (∀ names, (∀ n ∈ names, Name.IsProper n) →
      after.outline? (Path.extend place names) =
        (before.outline? (Path.extend old names)).map
          (Outline.placed s.now (Path.extend place names))) ∧
    (∀ path, Path.IsNormal path → Path.isWithin path old = true → after.outline? path = none) ∧
    ∀ path, Path.IsNormal path → Path.isWithin path old = false →
      Path.isWithin path place = false →
      after.outline? path = (before.outline? path).map fun o =>
        if path = parent then o.losing s.now name
        else if path = target then o.gaining s.now name
        else o := by
  intro before after old parent name target place
  obtain ⟨first, hopened, hsteps⟩ := h
  obtain ⟨hold, hne, hrelocation⟩ :=
    (effect_of_change hmade).relocation_move (hsteps.isConsistent hopened)
  have hold : old = Path.join parent name := hold
  rw [hold]
  exact ⟨⟨rfl, hrelocation.outline?_before⟩, fun names => hrelocation.outline?_within_of_same,
    fun path => hrelocation.outline?_gone, fun path => hrelocation.outline?_beside_of_ne hne⟩

/-- A directory of the starting tree is moved into another, and the file in it comes along. -/
theorem outlines_after_move_of_documents :
    let s := start ⟨Node.defaultTree 0, false, none, Store.empty, Volume.defaultKey⟩ {}
      History.usualLimit 1 ()
    let m : Mutation := .move "Documents/." "//Desktop"
    Reachable s ∧ (change m s).1 = .ok true ∧
      (change m s).2.volume.root.outline? "/Documents/welcome.txt" = none ∧
      (change m s).2.volume.root.outline? "/Desktop/Documents/welcome.txt" =
        (s.volume.root.outline? "/Documents/welcome.txt").map
          (Outline.placed 1 "/Desktop/Documents/welcome.txt") := by
  intro s m
  have hload : Volume.load 0 Store.empty Volume.defaultKey = .ok s.volume := rfl
  have h : Reachable s := ⟨s, .load hload, Relation.ReflTransGen.refl⟩
  have hmade : (change m s).1 = .ok true := rfl
  have hold : Path.normalize "Documents/." = "/Documents" := by decide +kernel
  have hplace : Path.join (Path.normalize "//Desktop") (Path.split "/Documents").2 =
    "/Desktop/Documents" := by decide +kernel
  have hfile : Path.extend "/Documents" [Text.ofString "welcome.txt"] =
    "/Documents/welcome.txt" := by decide +kernel
  have hmoved : Path.extend "/Desktop/Documents" [Text.ofString "welcome.txt"] =
    "/Desktop/Documents/welcome.txt" := by decide +kernel
  obtain ⟨-, hwithin, hgone, -⟩ := outlines_after_move h hmade
  rw [hold, hplace] at hwithin
  rw [hold] at hgone
  have hfound := hwithin [Text.ofString "welcome.txt"]
    (by simpa using Name.isValid_iff.mp (by decide))
  rw [hfile, hmoved] at hfound
  exact ⟨h, hmade, hgone _ (Path.isNormal_iff.mpr (by decide +kernel)) (by decide +kernel), hfound⟩

/-- A node that is renamed comes to its new name in its directory with all below it, each node under
its new path and with the time of the renaming, otherwise as it was. Nothing is left under the old
name. Of all other nodes only the directory changes, by losing the old name and gaining the new one
as its last. -/
theorem outlines_after_rename {s : Session ω} (h : Reachable s) {path newName : Text}
    (hmade : (change (.rename path newName) s).1 = .ok true) :
    let before := s.volume.root
    let after := (change (.rename path newName) s).2.volume.root
    let old := Path.normalize path
    let parent := (Path.split old).1
    let name := (Path.split old).2
    let place := Path.join parent newName
    (old = Path.join parent name ∧ (before.outline? old).isSome ∧
      (before.outline? parent).map Outline.isDirectory = some true ∧
      before.outline? place = none) ∧
    (∀ names, (∀ n ∈ names, Name.IsProper n) →
      after.outline? (Path.extend place names) =
        (before.outline? (Path.extend old names)).map fun o =>
          Outline.placed s.now (Path.extend place names)
            (if names = [] then o.called newName else o)) ∧
    (∀ path, Path.IsNormal path → Path.isWithin path old = true → after.outline? path = none) ∧
    ∀ path, Path.IsNormal path → Path.isWithin path old = false →
      Path.isWithin path place = false →
      after.outline? path = (before.outline? path).map fun o =>
        if path = parent then (o.losing s.now name).gaining s.now newName else o := by
  intro before after old parent name place
  obtain ⟨first, hopened, hsteps⟩ := h
  obtain ⟨hold, hrelocation⟩ :=
    (effect_of_change hmade).relocation_rename (hsteps.isConsistent hopened)
  have hold : old = Path.join parent name := hold
  rw [hold]
  exact ⟨⟨rfl, hrelocation.outline?_before⟩, fun names => hrelocation.outline?_within,
    fun path => hrelocation.outline?_gone, fun path => hrelocation.outline?_beside_of_same⟩

/-- A directory gets a name that begins as that of its neighbour does, and both are told apart. -/
theorem outlines_after_rename_of_documents :
    let s := start ⟨Node.defaultTree 0, false, none, Store.empty, Volume.defaultKey⟩ {}
      History.usualLimit 1 ()
    let m : Mutation := .rename "/Documents" "Desktop2"
    Reachable s ∧ (change m s).1 = .ok true ∧
      (change m s).2.volume.root.outline? "/Documents" = none ∧
      (change m s).2.volume.root.outline? "/Desktop2" =
        (s.volume.root.outline? "/Documents").map
          (fun o => Outline.placed 1 "/Desktop2" (o.called "Desktop2")) ∧
      (change m s).2.volume.root.outline? "/Desktop" = s.volume.root.outline? "/Desktop" := by
  intro s m
  have hload : Volume.load 0 Store.empty Volume.defaultKey = .ok s.volume := rfl
  have h : Reachable s := ⟨s, .load hload, Relation.ReflTransGen.refl⟩
  have hmade : (change m s).1 = .ok true := rfl
  have hold : Path.normalize "/Documents" = "/Documents" := by decide +kernel
  have hsplit : Path.split "/Documents" =
    (Text.ofString "/", Text.ofString "Documents") := by decide +kernel
  have hplace : Path.join "/" "Desktop2" = "/Desktop2" := by decide +kernel
  obtain ⟨-, hwithin, hgone, hbeside⟩ := outlines_after_rename h hmade
  rw [hold, hsplit, hplace] at hwithin hbeside
  rw [hold] at hgone
  refine ⟨h, hmade, hgone _ (Path.isNormal_iff.mpr hold) (by decide +kernel), ?_, ?_⟩
  · exact hwithin [] (by simp)
  · have hdesktop := hbeside "/Desktop" (Path.isNormal_iff.mpr (by decide +kernel))
      (by decide +kernel) (by decide +kernel)
    have hne : Text.ofString "/Desktop" ≠ Text.ofString "/" := by decide
    simp only [if_neg hne, Option.map_id'] at hdesktop
    exact hdesktop

/-- A node that is copied stays as it is with all below it. What is put into the directory is what
the source was, under a name that nothing there had, each node under its new path and with the
time of the copy. Of all other nodes only the directory changes, by gaining the copy as its last
child. -/
theorem outlines_after_copy {s : Session ω} (h : Reachable s) {source newParent : Text}
    (hmade : (change (.copy source newParent) s).1 = .ok true) :
    ∃ node directory, s.volume.node? source = some node ∧
      s.volume.directory? newParent = some directory ∧
      let before := s.volume.root
      let after := (change (.copy source newParent) s).2.volume.root
      let old := Path.normalize source
      let target := Path.normalize newParent
      let name := Name.forCopy node.name (Entries.keys directory.children)
      let place := Path.join target name
      (∀ names, (∀ n ∈ names, Name.IsProper n) →
        before.outline? (Path.extend place names) = none ∧
        after.outline? (Path.extend place names) =
          (before.outline? (Path.extend old names)).map fun o =>
            Outline.placed s.now (Path.extend place names)
              (if names = [] then o.called name else o)) ∧
      ∀ path, Path.IsNormal path → Path.isWithin path place = false →
        after.outline? path = (before.outline? path).map fun o =>
          if path = target then o.gaining s.now name else o := by
  obtain ⟨first, hopened, hsteps⟩ := h
  exact (effect_of_change hmade).outline?_copy (hsteps.isConsistent hopened)

/-- A file is copied next to itself: the copy gets a name of its own. -/
theorem outlines_after_copy_of_welcome :
    let s := start ⟨Node.defaultTree 0, false, none, Store.empty, Volume.defaultKey⟩ {}
      History.usualLimit 1 ()
    let m : Mutation := .copy "/Documents/welcome.txt" "/Documents"
    Reachable s ∧ (change m s).1 = .ok true ∧
      s.volume.root.outline? "/Documents/welcome (copy).txt" = none ∧
      (change m s).2.volume.root.outline? "/Documents/welcome.txt" =
        s.volume.root.outline? "/Documents/welcome.txt" := by
  intro s m
  have hload : Volume.load 0 Store.empty Volume.defaultKey = .ok s.volume := rfl
  have h : Reachable s := ⟨s, .load hload, Relation.ReflTransGen.refl⟩
  have hmade : (change m s).1 = .ok true := rfl
  have hname : (s.volume.node? "/Documents/welcome.txt").map Node.name =
    some (Text.ofString "welcome.txt") := by decide +kernel
  have hkeys : (s.volume.directory? "/Documents").map (fun d => Entries.keys d.children) =
    some [Text.ofString "welcome.txt", Text.ofString "photo.png"] := by decide +kernel
  obtain ⟨node, directory, hnode, hdirectory, hwithin, hbeside⟩ := outlines_after_copy h hmade
  rw [hnode, Option.map_some, Option.some.injEq] at hname
  rw [hdirectory, Option.map_some, Option.some.injEq] at hkeys
  have hplace : Path.join (Path.normalize "/Documents") (Name.forCopy "welcome.txt"
      ["welcome.txt", "photo.png"]) = "/Documents/welcome (copy).txt" := by decide +kernel
  rw [hname, hkeys, hplace] at hwithin hbeside
  have hsource := hbeside "/Documents/welcome.txt" (Path.isNormal_iff.mpr (by decide +kernel))
    (by decide +kernel)
  have hne : Text.ofString "/Documents/welcome.txt" ≠ Path.normalize "/Documents" := by
    decide +kernel
  simp only [if_neg hne, Option.map_id'] at hsource
  exact ⟨h, hmade, (hwithin [] (by simp)).1, hsource⟩

end VirtualShell.Session
