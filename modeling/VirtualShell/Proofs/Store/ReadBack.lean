import VirtualShell.Proofs.Store.Disk
import VirtualShell.Proofs.Store.FileName
import VirtualShell.Proofs.Store.Trouble
/-
  What is written to a store is read from it.

  Whatever store it is and whatever the key, once a write has succeeded the text under the key is
  the one that was written, also where the disk could have made trouble. In a folder this takes
  the detour over the temporary file: the two names differ, so moving the one over the other leaves
  the bytes where they are looked for.
-/

namespace VirtualShell

theorem DiskEntry.isPlain_append {ending : Text} (h : 3 ≤ ending.length) (last : Text) :
    IsPlain (last ++ ending) := by
  have hlength : (last ++ ending).length = last.length + ending.length := List.length_append
  refine ⟨fun e => ?_, fun e => ?_, fun e => ?_⟩ <;> rw [e] at hlength
  · have hdot : (Text.ofString ".").length = 1 := rfl
    omega
  · rw [List.length_nil] at hlength
    omega
  · have hdots : (Text.ofString "..").length = 2 := rfl
    omega

namespace Backing

/-- The file that holds a text and the one in which it is first written have different names. -/
theorem text_ne_draft (last : Text) :
    last ++ Text.ofString ".json" ≠ last ++ Text.ofString ".json.tmp" := by
  intro e
  exact absurd (List.append_cancel_left e) (by decide)

theorem putByWay_eq_ok {draft final : DiskPath} {bytes : List UInt8} {disk disk' : DiskEntry}
    {trouble : Trouble} (h : putByWay trouble draft final bytes disk = (.ok (), disk')) :
    ∃ written, disk.putBytes draft bytes = .ok written ∧
      written.replaceFile draft final = .ok disk' := by
  have hfailed : ∀ fault (d : DiskEntry), cleanUp trouble draft fault d ≠ (.ok (), disk') := by
    intro fault d e
    obtain ⟨found, after, hclean, -, -⟩ := exists_cleanUp_eq trouble draft fault d
    rw [hclean] at e
    cases e
  rw [putByWay] at h
  split at h
  · exact absurd h (hfailed _ _)
  · rename_i written hput
    split at h
    · exact absurd h (hfailed _ _)
    · rename_i hmove
      cases h
      exact ⟨written, Trouble.putBytes_eq_ok hput, Trouble.replaceFile_eq_ok hmove⟩

/-- A text that was put has a form in bytes, and these were put. -/
theorem putText_eq_ok {draft final : DiskPath} {data : Text} {disk disk' : DiskEntry}
    {trouble : Trouble} (h : putText trouble draft final data disk = (.ok (), disk')) :
    ∃ bytes, data.utf8? = some bytes ∧ putByWay trouble draft final bytes disk = (.ok (), disk') := by
  rw [putText] at h
  split at h
  · rename_i bytes hbytes
    exact ⟨bytes, hbytes, h⟩
  · split at h
    · rename_i fault written _
      obtain ⟨found, after, hclean, -, -⟩ := exists_cleanUp_eq trouble draft fault written
      rw [hclean] at h
      cases h
    · cases h

theorem writeToFolder_eq_ok {path : DiskPath} {key data : Text} {disk disk' : DiskEntry}
    {trouble : Trouble} (h : writeToFolder trouble path key data disk = (.ok (), disk')) :
    ∃ made draft final, disk.makeFolders true path = (.ok (), made) ∧
      draftPath? path key = .ok draft ∧ textPath? path key = .ok final ∧
      putText trouble draft final data made = (.ok (), disk') := by
  rw [writeToFolder] at h
  split at h
  · cases h
  · rename_i made hmade
    split at h
    · rename_i draft final hdraft hfinal
      exact ⟨made, draft, final, Trouble.makeFolders_eq_ok hmade, hdraft, hfinal, h⟩
    · cases h
    · cases h

theorem read_of_writeToFolder {path : DiskPath} {key data : Text} {disk disk' : DiskEntry}
    {trouble : Trouble} (hv : data.IsVisible)
    (h : writeToFolder trouble path key data disk = (.ok (), disk')) :
    (folder path disk').read key = .ok (some data) := by
  obtain ⟨made, draft, final, -, hdraft, hfinal, hput⟩ := writeToFolder_eq_ok h
  obtain ⟨way, last, rfl, hdraft'⟩ := draftPath?_of_textPath? hfinal
  rw [hdraft'] at hdraft
  cases hdraft
  have hutf8 := Text.utf8?_of_isAscii hv.isAscii
  obtain ⟨bytes, hbytes, hway⟩ := putText_eq_ok hput
  rw [hutf8] at hbytes
  cases hbytes
  obtain ⟨written, hwritten, hmoved⟩ := putByWay_eq_ok hway
  have hbytes := DiskEntry.bytesAt_of_replaceFile
    (DiskEntry.isPlain_append (by decide) last) (DiskEntry.isPlain_append (by decide) last)
    (text_ne_draft last) hwritten hmoved
  rw [read, hfinal]
  dsimp only
  rw [hbytes]
  dsimp only
  rw [Text.ofUtf8?_of_utf8? hutf8]
  dsimp only
  rw [Text.withLineFeeds_of_isVisible hv]

/-- The text under a key after a write that succeeded is the text that was written. -/
theorem read_of_write {backing backing' : Backing} {key data : Text} {trouble : Trouble}
    (hv : data.IsVisible) (h : backing.writeIn trouble key data = (.ok (), backing')) :
    backing'.read key = .ok (some data) := by
  cases backing with
  | nowhere fault => cases h
  | memory texts =>
    cases h
    rw [read, Entries.get?_put_self]
  | folder path disk =>
    rw [writeIn] at h
    generalize hfolder : writeToFolder trouble path key data disk = found at h
    obtain ⟨result, disk'⟩ := found
    cases h
    exact read_of_writeToFolder hv hfolder

end Backing

/-- The same for a store, which may refuse the write. -/
theorem Store.read_of_write {store store' : Store} {key data : Text} (hv : data.IsVisible)
    (h : store.write key data = (.ok (), store')) : store'.read key = .ok (some data) := by
  rw [write] at h
  dsimp only at h
  split at h
  · cases h
  · generalize hbacking : store.backing.write key data = found at h
    obtain ⟨result, backing'⟩ := found
    cases h
    exact Backing.read_of_write hv hbacking

end VirtualShell
