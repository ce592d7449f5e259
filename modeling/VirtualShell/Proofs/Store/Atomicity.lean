import VirtualShell.Proofs.Store.Failure
import VirtualShell.Proofs.Store.FolderTexts
/-
  A write is done as a whole or not at all.

  Whatever is in the folder of a store, or if there is none, and whichever of its accesses the disk
  refuses: a write puts all bytes of its text into the file of its key, or it fails and that file is
  what it was. What stands in the folder under any other name is the same in both cases, with all
  that is in it, and no draft is left, unless the disk would not have the draft removed. So what is
  read under another key can only change if the key makes the same name.

  The steps are followed one by one. Each but the last leaves the folder unharmed, which is to say
  that at most the draft is another, and so does cleaning up after any of them; the last one moves
  the whole text to its place. Since a write in trouble can end after any of its steps, this is
  also what the folder looks like while a write is under way.
-/

namespace VirtualShell

namespace DiskEntry

variable {disk disk' : DiskEntry} {path : DiskPath} {place : List Text} {x : Text}
  {entries : Entries DiskEntry} {bytes : List UInt8}

/-- No name is twice in the folder at the path, if there is one. -/
def IsDistinctIn (path : DiskPath) (disk : DiskEntry) : Prop :=
  ∀ place entries, disk.IsFolderOf path place entries → (Entries.keys entries).Nodup

theorem IsFolderOf.isDistinctIn (h : disk.IsFolderOf path place entries)
    (hnodup : (Entries.keys entries).Nodup) : disk.IsDistinctIn path := by
  intro found below hfound
  have hleads := hfound.leads
  rw [h.leads] at hleads
  cases hleads
  have hentries := hfound.found
  rw [h.found] at hentries
  cases hentries
  exact hnodup

theorem exists_isFolderOf_of_putBytes (hx : IsPlain x)
    (h : disk.putBytes (path ++ [x]) bytes = .ok disk') :
    ∃ place entries, disk.IsFolderOf path place entries := by
  obtain ⟨place, hslot, -, -⟩ := putBytes_eq_ok hx h
  exact ⟨place, hslot.isFolderOf⟩

theorem exists_isFolderOf_of_find? {entry : DiskEntry} (hx : IsPlain x)
    (h : disk.find? (path ++ [x]) = some entry) :
    ∃ place entries, disk.IsFolderOf path place entries := by
  by_contra hnone
  simp only [not_exists] at hnone
  rw [find?_append_eq_none hx hnone] at h
  cases h

theorem IsDistinctIn.putBytes (h : disk.IsDistinctIn path) (hx : IsPlain x)
    (hput : disk.putBytes (path ++ [x]) bytes = .ok disk') : disk'.IsDistinctIn path := by
  obtain ⟨place, entries, hfolder⟩ := exists_isFolderOf_of_putBytes hx hput
  obtain ⟨-, -, hwritten⟩ := hfolder.of_putBytes hx hput
  exact hwritten.isDistinctIn (Entries.nodup_keys_put x _ (h place entries hfolder))

/-- What was removed was a file, and it is gone. -/
theorem find?_of_removeFile (hdistinct : disk.IsDistinctIn path) (hx : IsPlain x)
    (h : disk.removeFile (path ++ [x]) = .ok disk') :
    (∃ bytes, disk.find? (path ++ [x]) = some (.file bytes)) ∧ disk'.find? (path ++ [x]) = none := by
  obtain ⟨p, hp, -⟩ := bind_eq_ok.mp h
  obtain ⟨place, hslot, -, -⟩ := (walk_eq_ok_iff hx).mp hp
  obtain ⟨entries, hfolder⟩ := hslot.isFolderOf
  obtain ⟨hfits, ⟨bytes, hbytes⟩, hremoved⟩ := hfolder.of_removeFile hx h
  refine ⟨⟨bytes, ?_⟩, ?_⟩
  · rw [hfolder.find?_append hx, if_pos hfits, hbytes]
  · rw [hremoved.find?_append hx, if_pos hfits,
      Entries.get?_erase_self x (hdistinct _ _ hfolder)]

/-- A file that is found can be removed. -/
theorem exists_removeFile_of_find? (hx : IsPlain x)
    (h : disk.find? (path ++ [x]) = some (.file bytes)) :
    ∃ after, disk.removeFile (path ++ [x]) = .ok after := by
  obtain ⟨place, entries, hfolder⟩ := exists_isFolderOf_of_find? hx h
  rw [hfolder.find?_append hx] at h
  split at h
  · rename_i hfits
    exact ⟨_, hfolder.removeFile hx hfits h⟩
  · cases h

end DiskEntry

/-- Whether the disk lets a write that fails clean up after itself: it makes the folders, tells
whether the draft is there, and removes it. -/
def Trouble.SparesCleanUp (trouble : Trouble) : Prop :=
  trouble.making = none ∧ trouble.seeing = false ∧ trouble.removing = none

namespace Backing

open DiskEntry

variable {path : DiskPath} {place : List Text} {entries : Entries DiskEntry}
  {disk made written after : DiskEntry} {key data name x : Text} {bytes part : List UInt8}
  {result : Except StoreFault Unit} {fault : StoreFault} {trouble : Trouble}

/-- What a write may do to the folder short of its last step: at most the draft is another, and it
is gone or holds the first of the bytes. A folder in its place stays. -/
structure IsUnharmed (path : DiskPath) (name : Text) (bytes : List UInt8)
    (disk after : DiskEntry) : Prop where
  others : ∀ x, IsPlain x → x ≠ draftName name →
    after.find? (path ++ [x]) = disk.find? (path ++ [x])
  draft : after.find? (path ++ [draftName name]) = disk.find? (path ++ [draftName name]) ∨
    (∀ below, disk.find? (path ++ [draftName name]) ≠ some (.folder below)) ∧
      ∀ left, after.find? (path ++ [draftName name]) = some left →
        ∃ part, part <+: bytes ∧ left = .file part

/-- What a write does to the folder: the file of the name has all the bytes, there is no draft and
all else is as before; or the disk refused, and the folder is unharmed. Then no file is left as a
draft either, as long as the disk lets the write clean up. -/
structure IsAllOrNothing (trouble : Trouble) (path : DiskPath) (name : Text) (bytes : List UInt8)
    (disk : DiskEntry) (result : Except StoreFault Unit) (after : DiskEntry) : Prop where
  done : result = .ok () → after.find? (path ++ [textName name]) = some (.file bytes) ∧
    after.find? (path ++ [draftName name]) = none ∧
    ∀ x, IsPlain x → x ≠ textName name → x ≠ draftName name →
      after.find? (path ++ [x]) = disk.find? (path ++ [x])
  undone : ∀ fault, result = .error fault → fault.isOfDisk = true ∧
    IsUnharmed path name bytes disk after ∧
    (trouble.SparesCleanUp →
      ∀ debris, after.find? (path ++ [draftName name]) ≠ some (.file debris))

/-- Bytes put straight into the file of the text are not put like that: the disk can refuse halfway,
and then half of them are there. -/
example :
    let trouble : Trouble := { writing := some (1, ⟨.diskFull, rfl⟩) }
    let disk : DiskEntry := .folder [("k.json", .file [0x6F])]
    let found := trouble.putBytes ["k.json"] [0x61, 0x62] disk
    ¬ IsAllOrNothing trouble [] "k" [0x61, 0x62] disk found.1 found.2 := by
  intro trouble disk found h
  obtain ⟨-, hunharmed, -⟩ := h.undone .diskFull rfl
  have htext := hunharmed.others (textName "k") (isPlain_textName "k") (by decide)
  cases htext

theorem IsAllOrNothing.congr (h : IsAllOrNothing trouble path name bytes made result after)
    (hmade : ∀ x, IsPlain x → made.find? (path ++ [x]) = disk.find? (path ++ [x])) :
    IsAllOrNothing trouble path name bytes disk result after := by
  refine ⟨fun hok => ?_, fun fault hfault => ?_⟩
  · obtain ⟨htext, hdraft, hothers⟩ := h.done hok
    exact ⟨htext, hdraft, fun x hx hne hne' => (hothers x hx hne hne').trans (hmade x hx)⟩
  · obtain ⟨hofDisk, ⟨hothers, hdraft⟩, hgone⟩ := h.undone fault hfault
    rw [hmade _ (isPlain_draftName name)] at hdraft
    exact ⟨hofDisk, ⟨fun x hx hne => (hothers x hx hne).trans (hmade x hx), hdraft⟩, hgone⟩

/-! ## Steps that leave the folder unharmed -/

theorem IsUnharmed.refl (path : DiskPath) (name : Text) (bytes : List UInt8) (disk : DiskEntry) :
    IsUnharmed path name bytes disk disk := ⟨fun _ _ _ => rfl, .inl rfl⟩

theorem isUnharmed_putBytes (hpart : part <+: bytes)
    (hput : disk.putBytes (path ++ [draftName name]) part = .ok written) :
    IsUnharmed path name bytes disk written := by
  have hdraft := isPlain_draftName name
  obtain ⟨place, entries, h⟩ := exists_isFolderOf_of_putBytes hdraft hput
  obtain ⟨hfits, hfree, hwritten⟩ := h.of_putBytes hdraft hput
  refine ⟨fun x hx hne => (changesOnly_putBytes hdraft hput).find?_append hx hne,
    .inr ⟨fun below => ?_, fun left hleft => ⟨part, hpart, ?_⟩⟩⟩
  · rw [h.find?_append hdraft, if_pos hfits]
    exact hfree below
  · rw [hwritten.find?_append hdraft, if_pos hfits, Entries.get?_put_self] at hleft
    exact (Option.some.inj hleft).symm

theorem IsUnharmed.removeFile (h : IsUnharmed path name bytes disk written)
    (hdistinct : written.IsDistinctIn path)
    (hremove : written.removeFile (path ++ [draftName name]) = .ok after) :
    IsUnharmed path name bytes disk after := by
  have hdraft := isPlain_draftName name
  obtain ⟨⟨found, hfound⟩, hgone⟩ := find?_of_removeFile hdistinct hdraft hremove
  refine ⟨fun x hx hne => ?_, .inr ⟨fun below hbelow => ?_, fun left hleft => ?_⟩⟩
  · exact ((changesOnly_removeFile hdraft hremove).find?_append hx hne).trans (h.others x hx hne)
  · -- a folder in the place of the draft would still be there, and was not removed
    rcases h.draft with hsame | ⟨hfree, -⟩
    · rw [hsame, hbelow] at hfound
      cases hfound
    · exact hfree below hbelow
  · rw [hgone] at hleft
    cases hleft

/-- A draft that can be removed is not left as a file. -/
theorem cleanUp_removes (hspares : trouble.SparesCleanUp) (hdistinct : disk.IsDistinctIn path)
    (hx : IsPlain x) (fault : StoreFault) (debris : List UInt8) :
    (cleanUp trouble (path ++ [x]) fault disk).2.find? (path ++ [x]) ≠ some (.file debris) := by
  obtain ⟨-, hseeing, hremoving⟩ := hspares
  rw [cleanUp, Trouble.sees, hseeing, Trouble.removeFile, hremoving]
  cases hfound : disk.find? (path ++ [x]) with
  | none =>
    show disk.find? (path ++ [x]) ≠ _
    rw [hfound]
    simp
  | some entry =>
    cases hremove : disk.removeFile (path ++ [x]) with
    | ok after =>
      show after.find? (path ++ [x]) ≠ _
      rw [(find?_of_removeFile hdistinct hx hremove).2]
      simp
    | error cause =>
      -- what cannot be removed is no file
      show disk.find? (path ++ [x]) ≠ _
      intro hfile
      obtain ⟨after, hremoved⟩ := exists_removeFile_of_find? hx hfile
      rw [hremove] at hremoved
      cases hremoved

/-! ## The ways a write can end -/

/-- Whatever the last step that was done, cleaning up after it leaves the folder unharmed. -/
theorem isAllOrNothing_cleanUp (hfault : fault.isOfDisk = true)
    (h : IsUnharmed path name bytes disk written) (hdistinct : written.IsDistinctIn path) :
    IsAllOrNothing trouble path name bytes disk
      (cleanUp trouble (path ++ [draftName name]) fault written).1
      (cleanUp trouble (path ++ [draftName name]) fault written).2 := by
  have hgone (hspares : trouble.SparesCleanUp) :=
    cleanUp_removes hspares hdistinct (isPlain_draftName name) fault
  obtain ⟨found, after, hclean, hofDisk, hafter⟩ :=
    exists_cleanUp_eq trouble (path ++ [draftName name]) fault written
  rw [hclean] at hgone ⊢
  refine ⟨fun hok => ?_, fun _ hfound => ?_⟩
  · cases hok
  · cases hfound
    refine ⟨hofDisk hfault, ?_, hgone⟩
    rcases hafter with rfl | hremove
    · exact h
    · exact h.removeFile hdistinct hremove

/-- The last step is the only one that touches the text, and it puts all of it there. -/
theorem isAllOrNothing_done (hdistinct : disk.IsDistinctIn path)
    (hput : disk.putBytes (path ++ [draftName name]) bytes = .ok written)
    (hmove : written.replaceFile (path ++ [draftName name]) (path ++ [textName name]) = .ok after) :
    IsAllOrNothing trouble path name bytes disk (.ok ()) after := by
  have hdraft := isPlain_draftName name
  have htext := isPlain_textName name
  obtain ⟨place, entries, h⟩ := exists_isFolderOf_of_putBytes hdraft hput
  obtain ⟨hfits, -, hwritten⟩ := h.of_putBytes hdraft hput
  obtain ⟨-, -, moved, hmoved, hafter⟩ := hwritten.of_replaceFile hdraft htext hmove
  rw [Entries.get?_put_self] at hmoved
  cases hmoved
  have hentry (x : Text) := get?_putEntries (hdistinct _ _ h) name x bytes
  refine ⟨fun _ => ⟨?_, ?_, fun x hx hne hne' => ?_⟩, fun fault hfault => ?_⟩
  · rw [hafter.find?_append htext, if_pos (fits_text hfits)]
    exact (hentry _).trans (if_pos rfl)
  · rw [hafter.find?_append hdraft, if_pos hfits]
    exact (hentry _).trans (by rw [if_neg (textName_ne_draftName name name).symm, if_pos rfl])
  · rw [hafter.find?_append hx, h.find?_append hx]
    have hsame := hentry x
    rw [if_neg hne, if_neg hne', putEntries] at hsame
    rw [hsame]
  · cases hfault

/-- Bytes put by way of the draft, whatever is in the folder and whatever the disk refuses. -/
theorem isAllOrNothing_putByWay (trouble : Trouble) (hdistinct : disk.IsDistinctIn path)
    (name : Text) (bytes : List UInt8) :
    IsAllOrNothing trouble path name bytes disk
      (putByWay trouble (path ++ [draftName name]) (path ++ [textName name]) bytes disk).1
      (putByWay trouble (path ++ [draftName name]) (path ++ [textName name]) bytes disk).2 := by
  have hdraft := isPlain_draftName name
  rw [putByWay]
  rcases hput : trouble.putBytes (path ++ [draftName name]) bytes disk with ⟨fault | _, written⟩
  · -- not all of the bytes were written
    obtain ⟨hofDisk, rfl | ⟨part, hpart, hput⟩⟩ := Trouble.putBytes_eq_error hput
    · exact isAllOrNothing_cleanUp hofDisk (.refl ..) hdistinct
    · exact isAllOrNothing_cleanUp hofDisk (isUnharmed_putBytes hpart hput)
        (hdistinct.putBytes hdraft hput)
  · have hput := Trouble.putBytes_eq_ok hput
    dsimp only
    cases hmove : trouble.replaceFile (path ++ [draftName name]) (path ++ [textName name])
        written with
    | error fault =>
      exact isAllOrNothing_cleanUp (Trouble.isOfDisk_of_replaceFile hmove)
        (isUnharmed_putBytes List.prefix_rfl hput) (hdistinct.putBytes hdraft hput)
    | ok after => exact isAllOrNothing_done hdistinct hput (Trouble.replaceFile_eq_ok hmove)

/-- Where the folder could not be made nothing was done, and if it was for no trouble, then there is
nothing in its place that a draft could be in. -/
theorem isAllOrNothing_of_makeFolders (h : trouble.makeFolders path disk = (.error fault, made))
    (hmade : ∀ x, IsPlain x → made.find? (path ++ [x]) = disk.find? (path ++ [x])) :
    IsAllOrNothing trouble path name bytes disk (.error fault) made := by
  have hdraft := isPlain_draftName name
  refine ⟨fun hok => ?_, fun _ hfault => ?_⟩
  · cases hok
  · cases hfault
    refine ⟨Trouble.isOfDisk_of_makeFolders h, ⟨fun x hx _ => hmade x hx, .inl (hmade _ hdraft)⟩,
      fun hspares debris hdebris => ?_⟩
    rw [hmade _ hdraft] at hdebris
    obtain ⟨place, entries, hfolder⟩ := exists_isFolderOf_of_find? hdraft hdebris
    rw [Trouble.makeFolders, hspares.1, hfolder.makeFolders] at h
    cases h

/-- A write along a direct way, whatever it finds and whatever the disk refuses. -/
theorem isAllOrNothing_writeToFolder (trouble : Trouble) (hnames : disk.HasDistinctNames)
    (hdirect : disk.IsDirect path) (hkey : key.IsStep)
    (hname : FileName.canonical? key = some name) (hbytes : data.utf8? = some bytes) :
    IsAllOrNothing trouble path name bytes disk (writeToFolder trouble path key data disk).1
      (writeToFolder trouble path key data disk).2 := by
  obtain ⟨front, rest, rfl, hfront⟩ := trouble.exists_makeFolders_eq path disk
  have hmade : ∀ x, IsPlain x → (trouble.makeFolders (front ++ rest) disk).2.find?
      (front ++ rest ++ [x]) = disk.find? (front ++ rest ++ [x]) := by
    intro x hx
    rw [hfront]
    exact find?_append_makeFolders hdirect hx
  have hdistinct : (trouble.makeFolders (front ++ rest) disk).2.HasDistinctNames := by
    rw [hfront]
    exact hnames.makeFolders true front
  rw [writeToFolder, draftPath?_of_isStep _ hkey, textPath?_of_isStep _ hkey, hname]
  rcases hfound : trouble.makeFolders (front ++ rest) disk with ⟨fault | _, made⟩
  · rw [hfound] at hmade
    exact isAllOrNothing_of_makeFolders hfound hmade
  · rw [hfound] at hmade hdistinct
    dsimp only
    rw [putText, hbytes]
    exact (isAllOrNothing_putByWay trouble (fun _ _ h => hdistinct _ _ h.found) name bytes).congr
      hmade

/-! ## What is read afterwards -/

/-- What is read under a key is the same if what stands under its name is. -/
theorem read_of_find?_eq (hkey : key.IsStep) (h : ∀ name, FileName.canonical? key = some name →
      after.find? (path ++ [textName name]) = disk.find? (path ++ [textName name])) :
    (folder path after).read key = (folder path disk).read key := by
  refine read_folder_congr fun final hfinal bytes => ?_
  rw [textPath?_of_isStep path hkey] at hfinal
  split at hfinal
  · cases hfinal
  · rename_i name hname
    cases hfinal
    rw [bytesAt_eq_ok_iff_find?, bytesAt_eq_ok_iff_find?, h name hname]

/-- Whatever is in the folder of a store and whatever the way to it lacks, if it is direct, and
whichever accesses the disk refuses: a write either puts all bytes into the file of its key, or
fails and leaves that file, and in both cases it leaves all else, and no draft that it is let
remove; so every key that makes another name, and after a failure every key, is read as before.
What `write` does is the case without trouble. -/
theorem write_isAllOrNothing (trouble : Trouble) (hnames : disk.HasDistinctNames)
    (hdirect : disk.IsDirect path) (hkey : key.IsStep)
    (hname : FileName.canonical? key = some name) (hbytes : data.utf8? = some bytes) :
    ∃ result after, (folder path disk).writeIn trouble key data = (result, folder path after) ∧
      IsAllOrNothing trouble path name bytes disk result after ∧
      ∀ other : Text, other.IsStep →
        (FileName.canonical? other ≠ some name ∨ ∃ fault, result = .error fault) →
        (folder path after).read other = (folder path disk).read other := by
  have hwrite := isAllOrNothing_writeToFolder trouble hnames hdirect hkey hname hbytes
  refine ⟨(writeToFolder trouble path key data disk).1, (writeToFolder trouble path key data disk).2,
    rfl, hwrite, fun other hother hsame => read_of_find?_eq hother fun otherName hotherName => ?_⟩
  have hplain := isPlain_textName otherName
  have hdraft := textName_ne_draftName otherName name
  cases hresult : (writeToFolder trouble path key data disk).1 with
  | error fault => exact (hwrite.undone fault hresult).2.1.others _ hplain hdraft
  | ok =>
    rcases hsame with hne | ⟨fault, hfault⟩
    · refine (hwrite.done hresult).2.2 _ hplain (fun heq => hne ?_) hdraft
      rw [hotherName, textName_injective heq]
    · rw [hresult] at hfault
      cases hfault

/-- The old text cannot be replaced although nothing on the disk is in the way: the write fails, it
leaves the one file in the folder, and the old text is read from it. -/
theorem write_isAllOrNothing_at_failed_move :
    let path : DiskPath := ["state"]
    let disk : DiskEntry := .folder [("state", .folder [("k.json", .file [0x6F, 0x6C, 0x64])])]
    let trouble : Trouble := { moving := some ⟨.diskFull, rfl⟩ }
    disk.HasDistinctNames ∧ disk.IsDirect path ∧ Text.IsStep "k" ∧
      FileName.canonical? "k" = some "k" ∧ Text.utf8? "new" = some [0x6E, 0x65, 0x77] ∧
      trouble.SparesCleanUp ∧
      ∃ after, (folder path disk).writeIn trouble "k" "new" = (.error .diskFull, folder path after) ∧
        IsAllOrNothing trouble path "k" [0x6E, 0x65, 0x77] disk (.error .diskFull) after ∧
        after.names? path = some [Text.ofString "k.json"] ∧
        (folder path after).read "k" = .ok (some "old") := by
  intro path disk trouble
  have hnames : disk.HasDistinctNames := by
    refine hasDistinctNames_folder (by decide) (List.forall_mem_singleton.mpr ?_)
    refine hasDistinctNames_folder (by decide) (List.forall_mem_singleton.mpr ?_)
    exact hasDistinctNames_file _
  have hdirect : disk.IsDirect path := ⟨[], path, [], rfl, rfl, ⟨_, rfl⟩, by decide⟩
  have hkey : Text.IsStep "k" := by decide
  have hbytes : Text.utf8? "new" = some [0x6E, 0x65, 0x77] := by decide
  obtain ⟨result, after, hwrite, hall, hread⟩ :=
    write_isAllOrNothing trouble hnames hdirect hkey rfl hbytes
  obtain ⟨left, hrefused, hleft⟩ : ∃ left, (folder path disk).writeIn trouble "k" "new" =
      (.error .diskFull, folder path left) ∧
      left.names? path = some [Text.ofString "k.json"] := ⟨_, rfl, rfl⟩
  rw [hrefused] at hwrite
  cases hwrite
  refine ⟨hnames, hdirect, hkey, rfl, hbytes, ⟨rfl, rfl, rfl⟩, after, hrefused, hall, hleft, ?_⟩
  rw [hread "k" hkey (.inr ⟨_, rfl⟩)]
  rfl

/-- Where a write is less than that. Two keys without slashes can differ and make the same name, and
a way that leads up from a folder still to be made leads to another folder once it is made: then
what is read under another key changes. A key can have no name at all. And a draft stays, with the
new text in it, if the disk refuses to move it as well as to remove it. -/
theorem unclean_writes :
    let key : Text := "é"
    let other : Text := [CodePoint.ofNat 0xDCC3, CodePoint.ofNat 0xDCA9]
    let direct : Backing := folder ["state"] (.folder [])
    let indirect : Backing := folder ["new", "..", "state"]
      (.folder [("state", .folder [("other.json", .file [0x61])])])
    let stale : DiskEntry :=
      .folder [("state", .folder [("k.json", .file [0x61]), ("k.json.tmp", .file [0x7B])])]
    let locked : Trouble := { moving := some ⟨.diskFull, rfl⟩, removing := some ⟨.diskFull, rfl⟩ }
    (key.IsStep ∧ other.IsStep ∧ other ≠ key ∧ direct.read other = .ok none ∧
      (direct.write key "a").1 = .ok () ∧
      (direct.write key "a").2.read other = .ok (some "a")) ∧
    (Text.IsStep "other" ∧ Text.ofString "other" ≠ key ∧ indirect.read "other" = .ok none ∧
      (indirect.write key "b").1 = .ok () ∧
      (indirect.write key "b").2.read "other" = .ok (some "a")) ∧
    (Text.IsStep [CodePoint.ofNat 0xD800] ∧
      (direct.write [CodePoint.ofNat 0xD800] "a").1 = .error (.name .noBytes)) ∧
    ∃ after, (folder ["state"] stale).writeIn locked "k" "b" =
        (.error .diskFull, folder ["state"] after) ∧
      after.find? ["state", "k.json.tmp"] = some (.file [0x62]) := by
  intro key other direct indirect stale locked
  have hstep : other.IsStep := by decide
  have hpath : textPath? ["state"] other = .ok ["state", textName key] := by
    have hname : FileName.canonical? other = some key := by cbv
    rw [textPath?_of_isStep _ hstep, hname]
    rfl
  refine ⟨⟨by decide, hstep, by decide, ?_, rfl, ?_⟩, ⟨by decide, by decide, rfl, rfl, rfl⟩,
    ⟨by decide, rfl⟩, _, rfl, rfl⟩
  · show read other (folder ["state"] (.folder [])) = _
    rw [read, hpath]
    rfl
  · show read other (folder ["state"] (writeToFolder {} ["state"] key "a" (.folder [])).2) = _
    rw [read, hpath]
    rfl

end Backing

end VirtualShell
