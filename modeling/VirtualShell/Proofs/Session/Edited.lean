import VirtualShell.Proofs.FileSystem.Edited
import VirtualShell.Proofs.Session.Relocated
/-
  The tree after a creation, a write and a deletion that were answered with yes.

  What the call was for is at its place, in the form that was asked for and as of now. Everywhere
  else the tree is the one before, but for the directory of the place, which has a new time and one
  name more or less. What was written is read again under every spelling of its path.
-/

namespace VirtualShell.Session

open Node (Outline IsAddition IsRewriting IsRemoval)

variable {ω : Type}

/-- What a volume reads at a path, however spelt, is the content of the outline there. -/
theorem content?_of_outline? {v : Volume} {place content : Text} {o : Outline}
    (ho : v.root.outline? place = some o) (hcontent : o.content? = some content) {spelling : Text}
    (hs : Path.normalize spelling = place) : v.content? spelling = some content := by
  rw [Volume.content?, Volume.node?, Node.content?_lookup, hs, ho]
  exact hcontent

/-- A creation adds one node, empty or with the content given, as the last child of its directory; a
write gives one file other content; a deletion takes away one node with all below it. All other
nodes stay as they were, but for the directory of the node that came or went. -/
theorem outlines_after_edit {s : Session ω} (h : Reachable s) :
    (∀ parent name content : Text, (change (.createFile parent name content) s).1 = .ok true →
      let after := (change (.createFile parent name content) s).2.volume
      let dir := Path.normalize parent
      let place := Path.join dir name
      ∃ size, contentSize? content = some size ∧
        IsAddition s.now s.volume.root dir name
          ⟨false, name, place, s.now, size, some content, []⟩ after.root ∧
        ∀ spelling, Path.normalize spelling = place → after.content? spelling = some content) ∧
    (∀ parent name : Text, (change (.createDirectory parent name) s).1 = .ok true →
      let after := (change (.createDirectory parent name) s).2.volume
      let dir := Path.normalize parent
      IsAddition s.now s.volume.root dir name
        ⟨true, name, Path.join dir name, s.now, 0, none, []⟩ after.root) ∧
    (∀ path content : Text, (change (.write path content) s).1 = .ok true →
      let after := (change (.write path content) s).2.volume
      let place := Path.normalize path
      ∃ size, contentSize? content = some size ∧
        IsRewriting s.now s.volume.root place content size after.root ∧
        ∀ spelling, Path.normalize spelling = place → after.content? spelling = some content) ∧
    ∀ path : Text, (change (.delete path) s).1 = .ok true →
      let after := (change (.delete path) s).2.volume
      let place := Path.normalize path
      let dir := (Path.split place).1
      let name := (Path.split place).2
      place = Path.join dir name ∧ IsRemoval s.now s.volume.root dir name after.root := by
  refine ⟨fun parent name content hmade => ?_, fun parent name hmade => ?_,
    fun path content hmade => ?_, fun path hmade => ?_⟩
  · obtain ⟨size, hsize, hadded⟩ := (effect_of_change hmade).isAddition_createFile
    exact ⟨size, hsize, hadded, fun spelling => content?_of_outline? hadded.made rfl⟩
  · exact (effect_of_change hmade).isAddition_createDirectory
  · obtain ⟨size, hsize, hwritten⟩ := (effect_of_change hmade).isRewriting
    obtain ⟨o, ho, -⟩ := Option.map_eq_some_iff.mp hwritten.file
    have hnew := hwritten.written
    rw [ho, Option.map_some] at hnew
    exact ⟨size, hsize, hwritten, fun spelling => content?_of_outline? hnew rfl⟩
  · obtain ⟨first, hopened, hsteps⟩ := h
    exact (effect_of_change hmade).isRemoval (hsteps.isConsistent hopened)

/-- A file is created, a file is written and a directory is deleted, each under a roundabout
spelling; the directory that goes has a neighbour, which stays. -/
theorem outlines_after_edit_of_documents :
    let s := start ⟨Node.defaultTree 0, false, none, Store.empty, Volume.defaultKey⟩ {}
      History.usualLimit 1 ()
    let created := change (.createFile "Documents/." "a" "hi") s
    let made := change (.createDirectory "//Desktop" "Documents") s
    let written := change (.write "/Desktop/../Documents/welcome.txt" "") s
    let deleted := change (.delete "./Documents") s
    Reachable s ∧
      (created.1 = .ok true ∧ created.2.volume.content? "//Documents/b/../a" = some "hi" ∧
        created.2.volume.root.outline? "/Desktop" = s.volume.root.outline? "/Desktop") ∧
      (made.1 = .ok true ∧ made.2.volume.root.outline? "/Documents" =
        s.volume.root.outline? "/Documents") ∧
      (written.1 = .ok true ∧ written.2.volume.content? "/Documents/welcome.txt" = some []) ∧
      deleted.1 = .ok true ∧ deleted.2.volume.root.outline? "/Documents/welcome.txt" = none ∧
        deleted.2.volume.root.outline? "/Desktop" = s.volume.root.outline? "/Desktop" := by
  intro s created made written deleted
  have hload : Volume.load 0 Store.empty Volume.defaultKey = .ok s.volume := rfl
  have h : Reachable s := ⟨s, .load hload, Relation.ReflTransGen.refl⟩
  have hdesktop : Path.IsNormal "/Desktop" := Path.isNormal_iff.mpr (by decide +kernel)
  have hdocuments : Path.IsNormal "/Documents" := Path.isNormal_iff.mpr (by decide +kernel)
  have hfile : Path.IsNormal "/Documents/welcome.txt" := Path.isNormal_iff.mpr (by decide +kernel)
  obtain ⟨hcreated, hmade, hwritten, hdeleted⟩ := outlines_after_edit h
  obtain ⟨size, -, hadded, hread⟩ := hcreated "Documents/." "a" "hi" rfl
  obtain ⟨-, -, -, hrewritten⟩ := hwritten "/Desktop/../Documents/welcome.txt" "" rfl
  obtain ⟨-, hremoved⟩ := hdeleted "./Documents" rfl
  have hsplit : Path.split (Path.normalize "./Documents") =
    (Text.ofString "/", Text.ofString "Documents") := by decide +kernel
  rw [hsplit] at hremoved
  have hbeside := hadded.beside _ hdesktop (by decide +kernel)
  have hothers := (hmade "//Desktop" "Documents" rfl).beside _ hdocuments (by decide +kernel)
  have hstays := hremoved.beside _ hdesktop (by decide +kernel)
  have hdir : Text.ofString "/Desktop" ≠ Path.normalize "Documents/." := by decide +kernel
  have hnext : Text.ofString "/Documents" ≠ Path.normalize "//Desktop" := by decide +kernel
  have hroot : Text.ofString "/Desktop" ≠ Text.ofString "/" := by decide
  simp only [if_neg hdir, if_neg hnext, if_neg hroot, Option.map_id'] at hbeside hothers hstays
  exact ⟨h, ⟨rfl, hread _ (by decide +kernel), hbeside⟩, ⟨rfl, hothers⟩,
    ⟨rfl, hrewritten _ (by decide +kernel)⟩, rfl, hremoved.gone _ hfile (by decide +kernel), hstays⟩

end VirtualShell.Session
