import VirtualShell.Proofs.Store.Disk
/-
  What making folders leaves as it is.

  A folder is only ever made where nothing is. So every folder stays, every file stays, and no
  file comes up that was not there. A path can still lead to a file afterwards that it did not
  lead to before, if it goes down into a folder that was lacking and up again; a path that does
  not go up from there leads to the same file as before or to none.
-/

namespace VirtualShell.DiskEntry

variable {disk disk' : DiskEntry} {way rest : DiskPath} {place p q : List Text} {name : Text}
  {bytes : List UInt8}

/-! ## Ways that only lead down -/

theorem isFolderAt_of_file_below (h : disk.at? (place ++ [name]) = some (file bytes)) :
    disk.IsFolderAt place := by
  rw [at?_append, Option.bind_eq_some_iff] at h
  obtain ⟨entry, hplace, hname⟩ := h
  cases entry with
  | file bytes => cases hname
  | folder entries => exact ⟨entries, hplace⟩

theorem step_eq_ok_of_ne (hup : name ≠ "..") (h : disk.step p name = .ok q) :
    q = p ∨ q = p ++ [name] := by
  rw [DiskEntry.step] at h
  split at h
  · split at h
    · cases h
      exact .inl rfl
    split at h
    · cases h
    split at h
    · cases h
      exact .inr rfl
    · cases h
  · cases h

theorem exists_append_of_foldlM (hup : Text.ofString ".." ∉ rest)
    (h : rest.foldlM disk.step p = .ok q) :
    ∃ more, q = p ++ more := by
  induction rest generalizing p with
  | nil =>
    cases h
    exact ⟨[], (List.append_nil _).symm⟩
  | cons name rest ih =>
    rw [List.foldlM_cons, bind_eq_ok] at h
    obtain ⟨r, hr, hrest⟩ := h
    rw [List.mem_cons, not_or] at hup
    obtain ⟨more, rfl⟩ := ih hup.2 hrest
    rcases step_eq_ok_of_ne (Ne.symm hup.1) hr with rfl | rfl
    · exact ⟨more, rfl⟩
    · exact ⟨[name] ++ more, List.append_assoc ..⟩

/-- A way down leads to the same folder on every disk that has the folder. -/
theorem foldlM_step_of_isFolderAt (hup : Text.ofString ".." ∉ rest)
    (h : rest.foldlM disk'.step p = .ok q)
    (hq : disk.IsFolderAt q) : rest.foldlM disk.step p = .ok q := by
  induction rest generalizing p with
  | nil => exact h
  | cons name rest ih =>
    obtain ⟨all, rfl⟩ := exists_append_of_foldlM hup h
    rw [List.foldlM_cons, bind_eq_ok] at h ⊢
    obtain ⟨r, hr, hrest⟩ := h
    rw [List.mem_cons, not_or] at hup
    obtain ⟨more, hmore⟩ := exists_append_of_foldlM hup.2 hrest
    have hfolder : disk.IsFolderAt r := by
      rw [hmore] at hq
      exact hq.above
    exact ⟨r, step_of_isFolderAt hr hq.above hfolder, ih hup.2 hrest⟩

/-- A way that leads up, if at all, then only from folders that are there: a first part of it
leads to a folder, and from there it does not lead up. -/
def IsDirect (disk : DiskEntry) (way : DiskPath) : Prop :=
  ∃ base rest place, way = base ++ rest ∧ base.foldlM disk.step [] = .ok place ∧
    disk.IsFolderAt place ∧ Text.ofString ".." ∉ rest

theorem IsDirect.keeps (h : disk.IsDirect way) (hk : KeepsFolders disk disk') :
    disk'.IsDirect way := by
  obtain ⟨base, rest, place, rfl, hbase, hplace, hrest⟩ := h
  exact ⟨base, rest, place, rfl, hk.foldlM hbase hplace, hk place hplace, hrest⟩

theorem IsSlot.isDirect (h : IsSlot disk way name place) : disk.IsDirect way :=
  ⟨way, [], place, (List.append_nil way).symm, h.leads, h.isFolder, List.not_mem_nil⟩

/-! ## Adding folders -/

/-- The one disk is the other with some more folders. -/
structure AddsFolders (disk disk' : DiskEntry) : Prop where
  folders : KeepsFolders disk disk'
  files : ∀ p bytes, disk'.at? p = some (file bytes) ↔ disk.at? p = some (file bytes)

theorem AddsFolders.refl (disk : DiskEntry) : AddsFolders disk disk :=
  ⟨fun _ h => h, fun _ _ => Iff.rfl⟩

theorem AddsFolders.trans {disk'' : DiskEntry} (h : AddsFolders disk disk')
    (h' : AddsFolders disk' disk'') : AddsFolders disk disk'' :=
  ⟨h.folders.trans h'.folders, fun p bytes => (h'.files p bytes).trans (h.files p bytes)⟩

theorem file_at?_set_folder_iff (h : disk.at? p = none) (q : List Text) (bytes : List UInt8) :
    (disk.set p (some (folder []))).at? q = some (file bytes) ↔
      disk.at? q = some (file bytes) := by
  -- below the place nothing was and nothing is; above it there are folders
  rcases places_cases p q with ⟨more, rfl⟩ | ⟨x, rest, rfl⟩ | ⟨r, x, y, rest, more, hne, rfl, rfl⟩
  · have hold : disk.at? (p ++ more) = none := by rw [at?_append, h, Option.bind_none]
    rw [hold]
    refine iff_of_false ?_ (by simp)
    rcases List.eq_nil_or_concat p with rfl | ⟨place, x, rfl⟩
    · cases h
    rw [List.concat_eq_append, List.append_assoc, List.singleton_append, at?_append, at?_set_above]
    cases disk.at? place with
    | none => simp
    | some old =>
      cases old with
      | file bytes => simp [set, at?]
      | folder entries =>
        rw [Option.map_some, Option.bind_some, set, at?_folder_cons, Entries.get?_put_self]
        cases more <;> simp [at?, Entries.get?]
  · rw [at?_set_above]
    cases disk.at? q with
    | none => rfl
    | some old =>
      cases old with
      | file bytes => rfl
      | folder entries =>
        obtain ⟨entries', hset⟩ := isFolder_set_cons x rest (some (folder [])) entries
        simp [hset]
  · rw [at?_set_beside hne]

theorem addsFolders_makeFolder {path : DiskPath} (h : disk.makeFolder path = .ok disk') :
    AddsFolders disk disk' := by
  rw [makeFolder, bind_eq_ok] at h
  obtain ⟨place, -, h⟩ := h
  split at h
  · cases h
  · rename_i hnone
    cases h
    refine ⟨keepsFolders_set _ ?_, file_at?_set_folder_iff hnone⟩
    rintro ⟨entries, hfolder⟩
    rw [hnone] at hfolder
    cases hfolder

theorem addsFolders_makeFoldersUp (mayExist : Bool) (names : List Text) (disk : DiskEntry) :
    AddsFolders disk (makeFoldersUp mayExist names disk).2 := by
  induction names generalizing disk with
  | nil => exact .refl disk
  | cons name above ih =>
    rw [makeFoldersUp]
    generalize (above ≠ [] && (disk.find? above.reverse).isNone : Bool) = lacking
    dsimp only
    generalize hway : (if lacking then makeFoldersUp mayExist above disk else (.ok (), disk)) = made
    have hmade : AddsFolders disk made.2 := by
      rw [← hway]
      split
      · exact ih disk
      · exact .refl disk
    -- whether it goes on depends on how the way was made, and either way nothing else is changed
    refine iteInduction (motive := fun found : Except DiskFault Unit × DiskEntry =>
      AddsFolders disk found.2) ?_ fun _ => hmade
    intro _
    split
    · exact hmade
    · split
      · rename_i hfolder
        exact hmade.trans (addsFolders_makeFolder hfolder)
      · exact hmade

theorem addsFolders_makeFolders (mayExist : Bool) (path : DiskPath) (disk : DiskEntry) :
    AddsFolders disk (disk.makeFolders mayExist path).2 :=
  addsFolders_makeFoldersUp mayExist _ disk

/-! ## Files that are read -/

theorem AddsFolders.bytesAt_eq_ok (h : AddsFolders disk disk') (hn : IsPlain name)
    (hbytes : disk.bytesAt (way ++ [name]) = .ok bytes) :
    disk'.bytesAt (way ++ [name]) = .ok bytes := by
  obtain ⟨place, hslot, hfile⟩ := (bytesAt_eq_ok_iff hn).mp hbytes
  exact (bytesAt_eq_ok_iff hn).mpr ⟨place, hslot.keeps h.folders, (h.files _ _).mpr hfile⟩

/-- Along a direct way no file comes up by making folders. -/
theorem AddsFolders.bytesAt_eq_ok_iff (h : AddsFolders disk disk') (hn : IsPlain name)
    (hd : disk.IsDirect way) (bytes : List UInt8) :
    disk'.bytesAt (way ++ [name]) = .ok bytes ↔ disk.bytesAt (way ++ [name]) = .ok bytes := by
  constructor
  · intro hbytes
    obtain ⟨place, hslot, hfile⟩ := (DiskEntry.bytesAt_eq_ok_iff hn).mp hbytes
    rw [h.files] at hfile
    have hplace := isFolderAt_of_file_below hfile
    -- the way into the folder of the file can be gone without the folders that were added
    obtain ⟨base, rest, first, rfl, hbase, hfirst, hup⟩ := hd
    have hleads := hslot.leads
    rw [List.foldlM_append, h.folders.foldlM hbase hfirst] at hleads
    refine (DiskEntry.bytesAt_eq_ok_iff hn).mpr
      ⟨place, ⟨hslot.short, hslot.fits, ?_, hplace⟩, hfile⟩
    rw [List.foldlM_append, hbase]
    exact foldlM_step_of_isFolderAt hup hleads hplace
  · exact h.bytesAt_eq_ok hn

end VirtualShell.DiskEntry
