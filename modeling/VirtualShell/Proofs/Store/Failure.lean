import VirtualShell.Proofs.Store.Way
/-
  A failed write leaves the text under the key.

  A write that fails, by what is on the disk or by trouble that the disk makes, may have made
  folders, and it may leave a temporary file behind or take one away. Neither changes the file
  that is read, if the way to it is direct: and it is direct where a text can be read already, so
  once a write has succeeded no failure later on loses the text.
-/

namespace VirtualShell

namespace DiskEntry

variable {disk disk' : DiskEntry} {way : DiskPath} {x y : Text} {bytes : List UInt8}

/-! ## One file of a folder -/

/-- At most the file `x` in the folder that the way leads to is another. -/
inductive ChangesOnly (disk : DiskEntry) (way : DiskPath) (x : Text) : DiskEntry → Prop
  | same : ChangesOnly disk way x disk
  | file {place : List Text} {disk' : DiskEntry} (slot : IsSlot disk way x place)
    (folders : KeepsFolders disk disk')
    (others : ∀ y, y ≠ x → disk'.at? (place ++ [y]) = disk.at? (place ++ [y])) :
    ChangesOnly disk way x disk'

theorem ChangesOnly.folders (h : ChangesOnly disk way x disk') : KeepsFolders disk disk' := by
  cases h with
  | same => exact fun _ hp => hp
  | file _ folders _ => exact folders

theorem ChangesOnly.trans {disk'' : DiskEntry} (h : ChangesOnly disk way x disk')
    (h' : ChangesOnly disk' way x disk'') : ChangesOnly disk way x disk'' := by
  cases h' with
  | same => exact h
  | file slot' folders' others' =>
    cases h with
    | same => exact .file slot' folders' others'
    | file slot folders others =>
      obtain rfl := (slot.keeps folders).unique slot'
      exact .file slot (folders.trans folders') fun y hy => (others' y hy).trans (others y hy)

theorem changesOnly_set {place : List Text} (entry : Option DiskEntry)
    (hslot : IsSlot disk way x place) (hnot : ¬ disk.IsFolderAt (place ++ [x])) :
    ChangesOnly disk way x (disk.set (place ++ [x]) entry) :=
  .file hslot (keepsFolders_set entry hnot) fun _ hy => at?_set_of_ne entry hy disk place

theorem changesOnly_putBytes (hx : IsPlain x)
    (h : disk.putBytes (way ++ [x]) bytes = .ok disk') : ChangesOnly disk way x disk' := by
  obtain ⟨place, hslot, hnot, rfl⟩ := putBytes_eq_ok hx h
  exact changesOnly_set _ hslot hnot

theorem changesOnly_removeFile (hx : IsPlain x) (h : disk.removeFile (way ++ [x]) = .ok disk') :
    ChangesOnly disk way x disk' := by
  rw [removeFile, bind_eq_ok] at h
  obtain ⟨p, hp, h⟩ := h
  obtain ⟨place, hslot, -, rfl⟩ := (walk_eq_ok_iff hx).mp hp
  split at h
  · cases h
  · rename_i hnot
    cases h
    refine changesOnly_set none hslot ?_
    rintro ⟨entries, hfound⟩
    exact hnot entries hfound

/-- All else in the folder is found as before. -/
theorem ChangesOnly.find?_append (h : ChangesOnly disk way x disk') (hy : IsPlain y)
    (hne : y ≠ x) : disk'.find? (way ++ [y]) = disk.find? (way ++ [y]) := by
  cases h with
  | same => rfl
  | file slot folders others =>
    obtain ⟨entries, h⟩ := slot.isFolderOf
    obtain ⟨entries', h'⟩ := (slot.keeps folders).isFolderOf
    rw [h.find?_append hy, h'.find?_append hy, ← h.at?_append, ← h'.at?_append, others y hne]

theorem ChangesOnly.bytesAt_eq_ok_iff (h : ChangesOnly disk way x disk') (hy : IsPlain y)
    (hne : y ≠ x) (bytes : List UInt8) :
    disk'.bytesAt (way ++ [y]) = .ok bytes ↔ disk.bytesAt (way ++ [y]) = .ok bytes := by
  rw [bytesAt_eq_ok_iff_find?, bytesAt_eq_ok_iff_find?, h.find?_append hy hne]

end DiskEntry

namespace Backing

open DiskEntry

variable {path way : DiskPath} {x key data : Text} {disk : DiskEntry} {fault : StoreFault}
  {trouble : Trouble}

/-! ## What a failed write does to a disk -/

theorem changesOnly_cleanUp (hx : IsPlain x) (trouble : Trouble) (fault : StoreFault)
    (disk : DiskEntry) : ChangesOnly disk way x (cleanUp trouble (way ++ [x]) fault disk).2 := by
  obtain ⟨found, after, hclean, -, hafter⟩ := exists_cleanUp_eq trouble (way ++ [x]) fault disk
  rw [hclean]
  rcases hafter with rfl | hremoved
  · exact .same
  · exact changesOnly_removeFile hx hremoved

theorem changesOnly_putBytes_in_trouble (hx : IsPlain x) (trouble : Trouble)
    (bytes : List UInt8) (disk : DiskEntry) :
    ChangesOnly disk way x (trouble.putBytes (way ++ [x]) bytes disk).2 := by
  rcases hput : trouble.putBytes (way ++ [x]) bytes disk with ⟨fault | _, written⟩
  · rcases (Trouble.putBytes_eq_error hput).2 with rfl | ⟨part, -, hpart⟩
    · exact .same
    · exact changesOnly_putBytes hx hpart
  · exact changesOnly_putBytes hx (Trouble.putBytes_eq_ok hput)

theorem changesOnly_putByWay {final : DiskPath} {bytes : List UInt8} (hx : IsPlain x)
    (h : (putByWay trouble (way ++ [x]) final bytes disk).1 = .error fault) :
    ChangesOnly disk way x (putByWay trouble (way ++ [x]) final bytes disk).2 := by
  have hwritten : ChangesOnly disk way x (trouble.putBytes (way ++ [x]) bytes disk).2 :=
    changesOnly_putBytes_in_trouble hx trouble bytes disk
  rw [putByWay] at h ⊢
  rcases hput : trouble.putBytes (way ++ [x]) bytes disk with ⟨fault | _, written⟩
  · rw [hput] at hwritten
    exact hwritten.trans (changesOnly_cleanUp hx trouble _ written)
  · rw [hput] at h hwritten
    dsimp only at h ⊢
    split
    · exact hwritten.trans (changesOnly_cleanUp hx trouble _ written)
    · rename_i hmove
      rw [hmove] at h
      cases h

theorem changesOnly_putText {final : DiskPath} (hx : IsPlain x)
    (h : (putText trouble (way ++ [x]) final data disk).1 = .error fault) :
    ChangesOnly disk way x (putText trouble (way ++ [x]) final data disk).2 := by
  rw [putText] at h ⊢
  cases hbytes : data.utf8? with
  | some bytes =>
    rw [hbytes] at h
    exact changesOnly_putByWay hx h
  | none =>
    have hwritten : ChangesOnly disk way x (trouble.putBytes (way ++ [x]) [] disk).2 :=
      changesOnly_putBytes_in_trouble hx trouble [] disk
    rcases hput : trouble.putBytes (way ++ [x]) [] disk with ⟨fault | _, written⟩
    · rw [hput] at hwritten
      exact hwritten.trans (changesOnly_cleanUp hx trouble _ written)
    · rw [hput] at hwritten
      exact hwritten

theorem addsFolders_makeFolders_in_trouble (trouble : Trouble) (path : DiskPath)
    (disk : DiskEntry) : AddsFolders disk (trouble.makeFolders path disk).2 := by
  obtain ⟨front, rest, -, hmade⟩ := trouble.exists_makeFolders_eq path disk
  rw [hmade]
  exact addsFolders_makeFolders true front disk

/-- The steps of a failed write: folders are added, then at most the temporary file is another. -/
theorem exists_made_of_writeToFolder {last : Text}
    (hfinal : textPath? path key = .ok (way ++ [last ++ ".json"]))
    (hdraft : draftPath? path key = .ok (way ++ [last ++ ".json.tmp"]))
    (h : (writeToFolder trouble path key data disk).1 = .error fault) :
    ∃ made, AddsFolders disk made ∧
      ChangesOnly made way (last ++ ".json.tmp") (writeToFolder trouble path key data disk).2 := by
  have hmade := addsFolders_makeFolders_in_trouble trouble path disk
  rw [writeToFolder, hfinal, hdraft] at h ⊢
  generalize trouble.makeFolders path disk = found at h hmade ⊢
  obtain ⟨_ | _, made⟩ := found
  · exact ⟨made, hmade, .same⟩
  · exact ⟨made, hmade, changesOnly_putText (isPlain_append (by decide) last) h⟩

/-! ## What is read afterwards -/

/-- Whether the way to the text under a key is direct, if there is one. -/
def IsDirect (key : Text) : Backing → Prop
  | folder path disk => ∀ final, textPath? path key = .ok final → disk.IsDirect final.dropLast
  | _ => True

/-- What is read is the same if the file holds the same bytes or, as before, none are read. -/
theorem read_folder_congr {disk' : DiskEntry} (h : ∀ final, textPath? path key = .ok final →
    ∀ bytes, disk'.bytesAt final = .ok bytes ↔ disk.bytesAt final = .ok bytes) :
    (folder path disk').read key = (folder path disk).read key := by
  rw [read, read]
  cases hpath : textPath? path key with
  | error fault => rfl
  | ok final =>
    dsimp only
    have hbytes := h final hpath
    cases hold : disk.bytesAt final with
    | ok bytes => rw [(hbytes bytes).mpr hold]
    | error fault =>
      cases hnew : disk'.bytesAt final with
      | error fault' => rfl
      | ok bytes =>
        rw [hbytes, hold] at hnew
        cases hnew

theorem isDirect_of_read {backing : Backing} {t : Text} (h : backing.read key = .ok (some t)) :
    backing.IsDirect key := by
  cases backing with
  | nowhere => exact trivial
  | memory => exact trivial
  | folder path disk =>
    intro final hfinal
    obtain ⟨way, last, rfl, -⟩ := draftPath?_of_textPath? hfinal
    rw [read, hfinal] at h
    dsimp only at h
    split at h
    · cases h
    · rename_i bytes hbytes
      obtain ⟨place, hslot, -⟩ :=
        (bytesAt_eq_ok_iff (isPlain_append (by decide) last)).mp hbytes
      rw [List.dropLast_concat]
      exact hslot.isDirect

/-- Along a direct way a failed write leaves what is read, and leaves the way direct. -/
theorem read_of_failed_write {backing : Backing} (hd : backing.IsDirect key)
    (h : (backing.writeIn trouble key data).1 = .error fault) :
    (backing.writeIn trouble key data).2.read key = backing.read key ∧
      (backing.writeIn trouble key data).2.IsDirect key := by
  cases backing with
  | nowhere => exact ⟨rfl, trivial⟩
  | memory texts => cases h
  | folder path disk =>
    replace h : (writeToFolder trouble path key data disk).1 = .error fault := h
    show (folder path (writeToFolder trouble path key data disk).2).read key = _ ∧
      (folder path (writeToFolder trouble path key data disk).2).IsDirect key
    have hsteps : ∀ final, textPath? path key = .ok final →
        (writeToFolder trouble path key data disk).2.IsDirect final.dropLast ∧
        ∀ bytes, (writeToFolder trouble path key data disk).2.bytesAt final = .ok bytes ↔
          disk.bytesAt final = .ok bytes := by
      intro final hfinal
      obtain ⟨way, last, rfl, hdraft⟩ := draftPath?_of_textPath? hfinal
      -- first the folders, which the way makes harmless, then the temporary file
      obtain ⟨made, hadds, hchanges⟩ := exists_made_of_writeToFolder hfinal hdraft h
      have hway := hd _ hfinal
      rw [List.dropLast_concat] at hway ⊢
      have hplain : IsPlain (last ++ Text.ofString ".json") := isPlain_append (by decide) last
      refine ⟨hway.keeps (hadds.folders.trans hchanges.folders), fun bytes => ?_⟩
      rw [hchanges.bytesAt_eq_ok_iff hplain (text_ne_draft last),
        hadds.bytesAt_eq_ok_iff hplain hway]
    exact ⟨read_folder_congr fun final hfinal => (hsteps final hfinal).2,
      fun final hfinal => (hsteps final hfinal).1⟩

end Backing

namespace Store

variable {store : Store} {key data : Text} {fault : StoreFault}

/-- Whether the way to the text under a key is direct. -/
def IsDirect (store : Store) (key : Text) : Prop := store.backing.IsDirect key

theorem writes_write (store : Store) (key data : Text) :
    (store.write key data).2.writes = store.writes + 1 := by
  rw [write]
  dsimp only
  split <;> rfl

theorem isDirect_of_read {t : Text} (h : store.read key = .ok (some t)) : store.IsDirect key :=
  Backing.isDirect_of_read h

theorem read_of_failed_write (hd : store.IsDirect key)
    (h : (store.write key data).1 = .error fault) :
    (store.write key data).2.read key = store.read key ∧ (store.write key data).2.IsDirect key := by
  rw [write] at h ⊢
  dsimp only at h ⊢
  split
  · exact ⟨rfl, hd⟩
  · rename_i hrefused
    rw [if_neg hrefused] at h
    exact Backing.read_of_failed_write hd h

end Store

end VirtualShell
