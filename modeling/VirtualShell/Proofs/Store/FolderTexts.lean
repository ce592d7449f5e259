import VirtualShell.Proofs.Store.OneFolder
/-
  The files of a folder as texts under names.

  A folder that was empty at the start and in which nothing but texts under keys is written holds
  one file for each name under which there is a text, and nothing else: between two writes there is
  no draft. This is what a write keeps, and with it reading under a key comes to the text under its
  name, with all line endings made the same. A key without a name makes both fail; under one whose
  name is too long nothing is ever written and nothing is found.
-/

namespace VirtualShell

namespace Backing

open DiskEntry

variable {path : DiskPath} {place : List Text} {texts : Text → Option Text}
  {entries : Entries DiskEntry} {disk made : DiskEntry} {key data name : Text} {bytes : List UInt8}

/-! ## What the entries hold -/

/-- The entries are the files of the texts under names, and nothing else. -/
structure HoldsTexts (path : DiskPath) (texts : Text → Option Text) (entries : Entries DiskEntry) :
    Prop where
  nodup : (Entries.keys entries).Nodup
  written : ∀ name t, texts name = some t → ∃ bytes, t.utf8? = some bytes ∧
    Entries.get? (textName name) entries = some (.file bytes)
  only : ∀ x entry, Entries.get? x entries = some entry → ∃ name bytes,
    x = textName name ∧ path.Fits (draftName name) ∧ (texts name).isSome ∧ entry = .file bytes

theorem holdsTexts_nil (path : DiskPath) : HoldsTexts path (fun _ => none) [] :=
  ⟨List.nodup_nil, fun _ _ h => (nomatch h), fun _ _ h => (nomatch h)⟩

theorem HoldsTexts.get?_ne_folder (h : HoldsTexts path texts entries) (x : Text)
    (below : List (Text × DiskEntry)) : Entries.get? x entries ≠ some (.folder below) := by
  intro hx
  obtain ⟨name, bytes, -, -, -, he⟩ := h.only x _ hx
  cases he

theorem HoldsTexts.get?_eq_none (h : HoldsTexts path texts entries)
    (hname : texts name = none ∨ ¬ path.Fits (draftName name)) :
    Entries.get? (textName name) entries = none := by
  rw [Option.eq_none_iff_forall_ne_some]
  intro entry hentry
  obtain ⟨other, bytes, hother, hfits, hsome, -⟩ := h.only _ _ hentry
  obtain rfl := textName_injective hother
  rcases hname with hnone | hroom
  · rw [hnone] at hsome
    cases hsome
  · exact hroom hfits

/-- The entries after a file was put under a name by way of its draft. -/
def putEntries (name : Text) (bytes : List UInt8) (entries : Entries DiskEntry) :
    Entries DiskEntry :=
  Entries.erase (draftName name)
    (Entries.put (textName name) (.file bytes) (Entries.put (draftName name) (.file bytes) entries))

theorem get?_putEntries (hnodup : (Entries.keys entries).Nodup) (name x : Text)
    (bytes : List UInt8) :
    Entries.get? x (putEntries name bytes entries) =
      if x = textName name then some (.file bytes)
      else if x = draftName name then none else Entries.get? x entries := by
  split
  · rename_i hx
    rw [hx, putEntries, Entries.get?_erase_of_ne (textName_ne_draftName name name),
      Entries.get?_put_self]
  rename_i hx
  split
  · rename_i hdraft
    rw [hdraft, putEntries, Entries.get?_erase_self]
    exact Entries.nodup_keys_put _ _ (Entries.nodup_keys_put _ _ hnodup)
  · rename_i hdraft
    rw [putEntries, Entries.get?_erase_of_ne hdraft, Entries.get?_put_of_ne hx,
      Entries.get?_put_of_ne hdraft]

/-- What a write keeps: the entries are still the files of the texts, of which one is new. -/
theorem HoldsTexts.put (h : HoldsTexts path texts entries) (hfits : path.Fits (draftName name))
    (hbytes : data.utf8? = some bytes) :
    HoldsTexts path (fun other => if name = other then some data else texts other)
      (putEntries name bytes entries) := by
  refine ⟨Entries.nodup_keys_erase _ (Entries.nodup_keys_put _ _ (Entries.nodup_keys_put _ _
    h.nodup)), fun other t hother => ?_, fun x entry hx => ?_⟩
  -- a name with the ending of a text is never one with the ending of a draft
  · rw [get?_putEntries h.nodup]
    split at hother
    · rename_i hname
      cases hother
      exact ⟨bytes, hbytes, if_pos (by rw [hname])⟩
    · rename_i hname
      rw [if_neg fun e => hname (textName_injective e).symm,
        if_neg (textName_ne_draftName other name)]
      exact h.written other t hother
  · rw [get?_putEntries h.nodup] at hx
    split at hx
    · rename_i hname
      cases hx
      exact ⟨name, bytes, hname, hfits, by simp, rfl⟩
    split at hx
    · cases hx
    · obtain ⟨other, found, hother, hroom, hsome, he⟩ := h.only x entry hx
      refine ⟨other, found, hother, hroom, ?_, he⟩
      split
      · rfl
      · exact hsome

/-! ## Reading and writing in the folder -/

/-- What reading under a key comes to where the texts under names are as given. -/
def readBack (path : DiskPath) (texts : Text → Option Text) (key : Text) :
    Except StoreFault (Option Text) :=
  match nameFor? path key with
  | .ok name => .ok ((texts name).map Text.withLineFeeds)
  | .error (.disk _) => .ok none
  | .error fault => .error fault

theorem read_of_bytesAt {final : DiskPath} (hfinal : textPath? path key = .ok final)
    (hnone : ∀ bytes, disk.bytesAt final ≠ .ok bytes) :
    (folder path disk).read key = .ok none := by
  rw [read, hfinal]
  dsimp only
  cases hbytes : disk.bytesAt final with
  | error fault => rfl
  | ok bytes => exact absurd hbytes (hnone bytes)

theorem isPlain_textName (name : Text) : IsPlain (textName name) := isPlain_append (by decide) name

theorem isPlain_draftName (name : Text) : IsPlain (draftName name) :=
  isPlain_append (by decide) name

theorem read_of_isFolderOf (h : disk.IsFolderOf path place entries)
    (ht : HoldsTexts path texts entries) (hkey : key.IsStep) :
    (folder path disk).read key = readBack path texts key := by
  have hpath := textPath?_of_isStep path hkey
  cases hname : FileName.canonical? key with
  | none =>
    rw [hname] at hpath
    rw [read, hpath, readBack, nameFor?, hname]
  | some name =>
    rw [hname] at hpath
    dsimp only at hpath
    have hbytesAt (bytes : List UInt8) : disk.bytesAt (path ++ [textName name]) = .ok bytes ↔
        path.Fits (textName name) ∧ Entries.get? (textName name) entries = some (.file bytes) :=
      h.bytesAt_eq_ok_iff (isPlain_textName name)
    by_cases hfits : path.Fits (draftName name)
    · rw [readBack, nameFor?, hname]
      dsimp only
      rw [if_pos hfits]
      dsimp only
      cases htext : texts name with
      | none =>
        refine read_of_bytesAt hpath fun bytes hbytes => ?_
        rw [hbytesAt, ht.get?_eq_none (.inl htext)] at hbytes
        cases hbytes.2
      | some t =>
        obtain ⟨bytes, hutf8, hfile⟩ := ht.written name t htext
        rw [read, hpath]
        dsimp only
        rw [(hbytesAt bytes).mpr ⟨fits_text hfits, hfile⟩]
        dsimp only
        rw [Text.ofUtf8?_of_utf8? hutf8]
        rfl
    · rw [readBack, nameFor?, hname]
      dsimp only
      rw [if_neg hfits]
      -- the name of the text can still be short enough to be looked for, but no text is there
      refine read_of_bytesAt hpath fun bytes hbytes => ?_
      rw [hbytesAt, ht.get?_eq_none (.inr hfits)] at hbytes
      cases hbytes.2

/-- A write puts its text under the name of its key, or fails for want of one. -/
theorem writeToFolder_of_isFolderOf (hmade : disk.makeFolders true path = (.ok (), made))
    (h : made.IsFolderOf path place entries) (ht : HoldsTexts path texts entries)
    (hkey : key.IsStep) (hdata : data.IsEncodable) :
    ∃ after entries', writeToFolder {} path key data disk =
        ((nameFor? path key).map fun _ => (), after) ∧
      after.IsFolderOf path place entries' ∧
      HoldsTexts path
        (fun name => if nameFor? path key = .ok name then some data else texts name) entries' := by
  have htext := textPath?_of_isStep path hkey
  have hdraft := draftPath?_of_isStep path hkey
  obtain ⟨bytes, hbytes⟩ := Text.exists_utf8?_of_isEncodable hdata
  rw [writeToFolder, Trouble.makeFolders_none_of_ok hmade]
  dsimp only
  cases hname : FileName.canonical? key with
  | none =>
    have hnone : nameFor? path key = .error (.name .noBytes) := by rw [nameFor?, hname]
    rw [hname] at htext hdraft
    rw [hdraft]
    exact ⟨made, entries, by rw [hnone]; rfl, h, by simpa [hnone] using ht⟩
  | some name =>
    rw [hname] at htext hdraft
    dsimp only at htext hdraft
    rw [hdraft, htext]
    dsimp only
    rw [putText, hbytes]
    dsimp only
    by_cases hfits : path.Fits (draftName name)
    · have hok : nameFor? path key = .ok name := by
        rw [nameFor?, hname]
        exact if_pos hfits
      obtain ⟨after, hput, hafter⟩ := putByWay_of_isFolderOf h (isPlain_draftName name)
        (isPlain_textName name) (textName_ne_draftName name name) hfits (fits_text hfits)
        (ht.get?_ne_folder _) (ht.get?_ne_folder _) bytes
      refine ⟨after, putEntries name bytes entries, by rw [hput, hok]; rfl, hafter, ?_⟩
      simpa [hok] using ht.put hfits hbytes
    · have hlong : nameFor? path key = .error (.disk .nameTooLong) := by
        rw [nameFor?, hname]
        exact if_neg hfits
      rw [putByWay_of_not_fits h (isPlain_draftName name) hfits]
      exact ⟨made, entries, by rw [hlong]; rfl, h, by simpa [hlong] using ht⟩

/-! ## From a fresh folder on -/

/-- A folder that is not there yet and can be made, or one that is there and is empty. -/
def IsFresh (path : DiskPath) (disk : DiskEntry) : Prop :=
  ∃ made, disk.makeFolders true path = (.ok (), made) ∧ made.find? path = some (.folder [])

/-- The disk keeps the texts under names in the folder, which may have to be made if there are
none. -/
def Keeps (path : DiskPath) (texts : Text → Option Text) (disk : DiskEntry) : Prop :=
  ∃ made place entries, disk.makeFolders true path = (.ok (), made) ∧
    made.IsFolderOf path place entries ∧ HoldsTexts path texts entries ∧
    (made = disk ∨ entries = [])

theorem IsFresh.keeps (h : IsFresh path disk) : Keeps path (fun _ => none) disk := by
  obtain ⟨made, hmade, hfound⟩ := h
  obtain ⟨place, hplace⟩ := find?_eq_folder_iff.mp hfound
  exact ⟨made, place, [], hmade, hplace, holdsTexts_nil path, .inr rfl⟩

/-- In a folder that still has to be made nothing is read that is not read once it is made. -/
theorem read_of_makeFolders (hmade : disk.makeFolders true path = (.ok (), made))
    (h : made.IsFolderOf path place []) (hkey : key.IsStep) :
    (folder path disk).read key = (folder path made).read key := by
  have hpath := textPath?_of_isStep path hkey
  cases hname : FileName.canonical? key with
  | none =>
    rw [hname] at hpath
    rw [read, read, hpath]
  | some name =>
    rw [hname] at hpath
    dsimp only at hpath
    have hnone : ∀ bytes, made.bytesAt (path ++ [textName name]) ≠ .ok bytes := by
      intro bytes hbytes
      rw [h.bytesAt_eq_ok_iff (isPlain_textName name)] at hbytes
      cases hbytes.2
    have hadds := addsFolders_makeFolders true path disk
    rw [hmade] at hadds
    rw [read_of_bytesAt hpath hnone, read_of_bytesAt hpath fun bytes hbytes =>
      hnone bytes (hadds.bytesAt_eq_ok (isPlain_textName name) hbytes)]

theorem Keeps.read (h : Keeps path texts disk) (hkey : key.IsStep) :
    (folder path disk).read key = readBack path texts key := by
  obtain ⟨made, place, entries, hmade, hfolder, ht, rfl | rfl⟩ := h
  · exact read_of_isFolderOf hfolder ht hkey
  · rw [read_of_makeFolders hmade hfolder hkey]
    exact read_of_isFolderOf hfolder ht hkey

theorem Keeps.writeToFolder (h : Keeps path texts disk) (hkey : key.IsStep)
    (hdata : data.IsEncodable) :
    ∃ after, writeToFolder {} path key data disk = ((nameFor? path key).map fun _ => (), after) ∧
      Keeps path (fun name => if nameFor? path key = .ok name then some data else texts name)
        after := by
  obtain ⟨made, place, entries, hmade, hfolder, ht, -⟩ := h
  obtain ⟨after, entries', hwrite, hafter, ht'⟩ :=
    writeToFolder_of_isFolderOf hmade hfolder ht hkey hdata
  exact ⟨after, hwrite, after, place, entries', hafter.makeFolders, hafter, ht', .inl rfl⟩

end Backing

end VirtualShell
