import VirtualShell.Proofs.Store.Folders
import VirtualShell.Proofs.Store.KeyName
import VirtualShell.Proofs.Store.ReadBack
/-
  One folder and what is done to the files in it.

  A path that leads to a folder leads there still after a file in the folder was put or taken away,
  so what is done to files comes down to what is done to the entries of the folder: one is looked
  up, and a file that is put by way of another is two entries put and one erased. Making the folder
  once more does nothing.
-/

namespace VirtualShell

namespace DiskEntry

variable {disk disk' : DiskEntry} {path : DiskPath} {place : List Text} {x y name : Text}
  {entries : Entries DiskEntry} {bytes : List UInt8}

/-- The path leads to a place where there is a folder with the entries. -/
structure IsFolderOf (disk : DiskEntry) (path : DiskPath) (place : List Text)
    (entries : Entries DiskEntry) : Prop where
  short : path.isTooLong = false
  leads : path.foldlM disk.step [] = .ok place
  found : disk.at? place = some (folder entries)

theorem find?_eq_folder_iff :
    disk.find? path = some (folder entries) ↔ ∃ place, disk.IsFolderOf path place entries := by
  rw [find?, walk]
  constructor
  · intro h
    split at h
    · rename_i place hwalk
      split at hwalk
      · cases hwalk
      · rename_i hshort
        exact ⟨place, by simpa using hshort, hwalk, h⟩
    · cases h
  · rintro ⟨place, hshort, hleads, hfound⟩
    rw [if_neg (by simp [hshort]), hleads]
    exact hfound

theorem IsFolderOf.find?_eq (h : disk.IsFolderOf path place entries) :
    disk.find? path = some (folder entries) := find?_eq_folder_iff.mpr ⟨place, h⟩

/-! ## Making the folder once more -/

theorem foldlM_step_filter {way : DiskPath} {p q : List Text}
    (h : way.foldlM disk.step p = .ok q) :
    (way.filter (· ≠ [])).foldlM disk.step p = .ok q := by
  induction way generalizing p with
  | nil => exact h
  | cons name way ih =>
    rw [List.foldlM_cons, bind_eq_ok] at h
    obtain ⟨r, hr, hway⟩ := h
    by_cases hname : name = []
    · -- an empty name stands for the folder that it is looked up in
      subst hname
      obtain ⟨below, hp⟩ := isFolderAt_of_step hr
      rw [step, hp] at hr
      dsimp only at hr
      rw [if_pos (by simp)] at hr
      cases hr
      rw [List.filter_cons_of_neg (by simp)]
      exact ih hway
    · rw [List.filter_cons_of_pos (by simpa using hname), List.foldlM_cons, bind_eq_ok]
      exact ⟨r, hr, ih hway⟩

theorem IsFolderOf.filter (h : disk.IsFolderOf path place entries) :
    disk.IsFolderOf (path.filter (· ≠ [])) place entries :=
  ⟨DiskPath.isTooLong_mono (DiskPath.size_filter_le _ path) h.short, foldlM_step_filter h.leads,
    h.found⟩

/-- Above a folder that is there the way is there. -/
theorem IsFolderOf.isSome_above {way : DiskPath}
    (h : disk.IsFolderOf (way ++ [name]) place entries) : (disk.find? way).isSome := by
  have hleads := h.leads
  rw [foldlM_step_append, bind_eq_ok] at hleads
  obtain ⟨above, hway, hstep⟩ := hleads
  obtain ⟨below, habove⟩ := isFolderAt_of_step hstep
  have hshort : way.isTooLong = false :=
    DiskPath.isTooLong_mono (by rw [DiskPath.size_append]; omega) h.short
  have hfolder : disk.IsFolderOf way above below := ⟨hshort, hway, habove⟩
  rw [hfolder.find?_eq]
  rfl

theorem IsFolderOf.makeFolder {way : DiskPath}
    (h : disk.IsFolderOf (way ++ [name]) place entries) :
    disk.makeFolder (way ++ [name]) = .error .occupied := by
  have hleads := h.leads
  rw [foldlM_step_append, bind_eq_ok] at hleads
  obtain ⟨above, hway, hstep⟩ := hleads
  have hslot : disk.slot (way ++ [name]) = .ok place := by
    rw [slot_append_singleton, if_neg (by simp [h.short]), bind_eq_ok]
    exact ⟨above, hway, by rw [hstep]⟩
  rw [DiskEntry.makeFolder, bind_eq_error]
  exact .inr ⟨place, hslot, by rw [h.found]; rfl⟩

theorem makeFoldersUp_of_isFolderOf {names : List Text}
    (h : disk.IsFolderOf names.reverse place entries) :
    makeFoldersUp true names disk = (.ok (), disk) := by
  cases names with
  | nil => rfl
  | cons name above =>
    have hnames : (disk.names? (name :: above).reverse).isSome := by
      rw [names?, h.find?_eq]
      rfl
    rw [List.reverse_cons] at h hnames
    have habove : (disk.find? above.reverse).isNone = false := by
      rw [Option.isNone_eq_false_iff]
      exact h.isSome_above
    -- nothing is lacking on the way, and that the place is occupied is permitted
    rw [makeFoldersUp, habove, List.reverse_cons]
    dsimp only
    rw [Bool.and_false, if_neg Bool.false_ne_true]
    dsimp only
    rw [if_pos rfl, if_neg (by simp), h.makeFolder]
    dsimp only
    rw [hnames]
    rfl

/-- A folder that is there is not made again. -/
theorem IsFolderOf.makeFolders (h : disk.IsFolderOf path place entries) :
    disk.makeFolders true path = (.ok (), disk) := by
  have hfilter := h.filter
  rw [← List.reverse_reverse (path.filter (· ≠ []))] at hfilter
  exact makeFoldersUp_of_isFolderOf hfilter

/-! ## The files in the folder -/

theorem IsFolderOf.isFolderAt (h : disk.IsFolderOf path place entries) : disk.IsFolderAt place :=
  ⟨entries, h.found⟩

theorem IsFolderOf.at?_append (h : disk.IsFolderOf path place entries) (x : Text) :
    disk.at? (place ++ [x]) = Entries.get? x entries := at?_append_singleton h.found x

theorem IsFolderOf.isSlot (h : disk.IsFolderOf path place entries) (hx : path.Fits x) :
    disk.IsSlot path x place := ⟨hx.2, hx.1, h.leads, h.isFolderAt⟩

theorem IsSlot.fits_path (h : disk.IsSlot path x place) : path.Fits x := ⟨h.fits, h.short⟩

theorem IsFolderOf.eq_of_isSlot {found : List Text} (h : disk.IsFolderOf path place entries)
    (hslot : disk.IsSlot path x found) : found = place := by
  have hleads := hslot.leads
  rw [h.leads] at hleads
  cases hleads
  rfl

theorem IsFolderOf.bytesAt_eq_ok_iff (h : disk.IsFolderOf path place entries) (hx : IsPlain x) :
    disk.bytesAt (path ++ [x]) = .ok bytes ↔
      path.Fits x ∧ Entries.get? x entries = some (file bytes) := by
  rw [DiskEntry.bytesAt_eq_ok_iff hx]
  constructor
  · rintro ⟨found, hslot, hfile⟩
    obtain rfl := h.eq_of_isSlot hslot
    exact ⟨hslot.fits_path, by rw [← h.at?_append, hfile]⟩
  · rintro ⟨hfits, hfile⟩
    exact ⟨place, h.isSlot hfits, by rw [h.at?_append, hfile]⟩

/-- The entries after the one under a name was replaced or removed. -/
def changed (x : Text) (entry : Option DiskEntry) (entries : Entries DiskEntry) :
    Entries DiskEntry :=
  match entry with
  | some entry => Entries.put x entry entries
  | none => Entries.erase x entries

theorem IsFolderOf.set (h : disk.IsFolderOf path place entries) (entry : Option DiskEntry)
    (hx : ∀ below, Entries.get? x entries ≠ some (folder below)) :
    (disk.set (place ++ [x]) entry).IsFolderOf path place (changed x entry entries) := by
  have hnot : ¬ disk.IsFolderAt (place ++ [x]) := by
    rintro ⟨below, hbelow⟩
    exact hx below (by rw [← h.at?_append, hbelow])
  refine ⟨h.short, (keepsFolders_set entry hnot).foldlM h.leads h.isFolderAt, ?_⟩
  rw [at?_set_above, h.found]
  cases entry <;> rfl

theorem IsFolderOf.putBytes (h : disk.IsFolderOf path place entries) (hx : IsPlain x)
    (hfits : path.Fits x) (hnot : ∀ below, Entries.get? x entries ≠ some (folder below))
    (bytes : List UInt8) :
    disk.putBytes (path ++ [x]) bytes = .ok (disk.set (place ++ [x]) (some (file bytes))) := by
  have hslot : disk.slot (path ++ [x]) = .ok (place ++ [x]) :=
    (slot_eq_ok_iff hx).mpr ⟨place, h.isSlot hfits, rfl⟩
  rw [DiskEntry.putBytes, bind_eq_ok]
  refine ⟨place ++ [x], hslot, ?_⟩
  rw [h.at?_append]
  split
  · rename_i below hbelow
    exact absurd hbelow (hnot below)
  · rfl

theorem IsFolderOf.replaceFile (h : disk.IsFolderOf path place entries) (hx : IsPlain x)
    (hy : IsPlain y) (hxfits : path.Fits x) (hyfits : path.Fits y)
    (hfile : Entries.get? x entries = some (file bytes))
    (hnot : ∀ below, Entries.get? y entries ≠ some (folder below)) :
    disk.replaceFile (path ++ [x]) (path ++ [y]) =
      .ok ((disk.set (place ++ [y]) (some (file bytes))).set (place ++ [x]) none) := by
  have hwalk : disk.walk (path ++ [x]) = .ok (place ++ [x]) :=
    (walk_eq_ok_iff hx).mpr ⟨place, h.isSlot hxfits, by rw [h.at?_append, hfile]; rfl, rfl⟩
  have hslot : disk.slot (path ++ [y]) = .ok (place ++ [y]) :=
    (slot_eq_ok_iff hy).mpr ⟨place, h.isSlot hyfits, rfl⟩
  rw [DiskEntry.replaceFile, bind_eq_ok]
  refine ⟨_, hwalk, ?_⟩
  rw [bind_eq_ok]
  refine ⟨_, hslot, ?_⟩
  rw [h.at?_append, h.at?_append, hfile]
  split
  · rename_i below _ hbelow
    exact absurd hbelow (hnot below)
  · rename_i hfound _
    cases hfound
    rfl
  · rename_i hfound
    cases hfound
  · rename_i hfound
    cases hfound

/-- What it takes for bytes to be put into a file of the folder, and what is in it then. -/
theorem IsFolderOf.of_putBytes (h : disk.IsFolderOf path place entries) (hx : IsPlain x)
    (hput : disk.putBytes (path ++ [x]) bytes = .ok disk') :
    path.Fits x ∧ (∀ below, Entries.get? x entries ≠ some (folder below)) ∧
      disk'.IsFolderOf path place (Entries.put x (file bytes) entries) := by
  obtain ⟨found, hslot, hfree, rfl⟩ := putBytes_eq_ok hx hput
  obtain rfl := h.eq_of_isSlot hslot
  have hnot : ∀ below, Entries.get? x entries ≠ some (folder below) := fun below hbelow =>
    hfree ⟨below, by rw [h.at?_append, hbelow]⟩
  exact ⟨hslot.fits_path, hnot, h.set (some (file bytes)) hnot⟩

/-- What it takes for a file of the folder to be moved over another, and what is in it then. -/
theorem IsFolderOf.of_replaceFile (h : disk.IsFolderOf path place entries) (hx : IsPlain x)
    (hy : IsPlain y) (hmove : disk.replaceFile (path ++ [x]) (path ++ [y]) = .ok disk') :
    path.Fits y ∧ (∀ below, Entries.get? y entries ≠ some (folder below)) ∧
      ∃ bytes, Entries.get? x entries = some (file bytes) ∧
        disk'.IsFolderOf path place (Entries.erase x (Entries.put y (file bytes) entries)) := by
  obtain ⟨found, bytes, hslot, hslot', hfile, hfree, rfl⟩ := replaceFile_eq_ok hx hy hmove
  obtain rfl := h.eq_of_isSlot hslot
  rw [h.at?_append] at hfile
  have hnot : ∀ below, Entries.get? y entries ≠ some (folder below) := fun below hbelow =>
    hfree ⟨below, by rw [h.at?_append, hbelow]⟩
  -- once the bytes are at the target, what is at the source is still a file, be it the same
  have hsource : ∀ below, Entries.get? x (Entries.put y (file bytes) entries) ≠
      some (folder below) := by
    intro below
    by_cases hxy : x = y
    · rw [hxy, Entries.get?_put_self]
      simp
    · rw [Entries.get?_put_of_ne hxy, hfile]
      simp
  exact ⟨hslot'.fits_path, hnot, bytes, hfile,
    (h.set (some (file bytes)) hnot).set none hsource⟩

/-- What it takes for a file of the folder to be removed, and what is in it then. -/
theorem IsFolderOf.of_removeFile (h : disk.IsFolderOf path place entries) (hx : IsPlain x)
    (hremove : disk.removeFile (path ++ [x]) = .ok disk') :
    path.Fits x ∧ (∃ bytes, Entries.get? x entries = some (file bytes)) ∧
      disk'.IsFolderOf path place (Entries.erase x entries) := by
  rw [removeFile, bind_eq_ok] at hremove
  obtain ⟨p, hp, hremove⟩ := hremove
  obtain ⟨found, hslot, hsome, rfl⟩ := (walk_eq_ok_iff hx).mp hp
  obtain rfl := h.eq_of_isSlot hslot
  rw [h.at?_append] at hsome hremove
  obtain ⟨entry, hentry⟩ := Option.isSome_iff_exists.mp hsome
  rw [hentry] at hremove
  cases entry with
  | folder below => cases hremove
  | file bytes =>
    cases hremove
    exact ⟨hslot.fits_path, ⟨bytes, hentry⟩, h.set none fun below => by rw [hentry]; simp⟩

/-- A name that does not fit is refused before anything is done. -/
theorem IsFolderOf.putBytes_of_not_fits (h : disk.IsFolderOf path place entries) (hx : IsPlain x)
    (hfits : ¬ path.Fits x) (bytes : List UInt8) :
    disk.putBytes (path ++ [x]) bytes = .error .nameTooLong := by
  have hslot : disk.slot (path ++ [x]) = .error .nameTooLong := by
    rw [slot_append_singleton]
    split
    · rfl
    · rename_i hshort
      have hlong : 255 < FileName.size x := by
        by_contra hsize
        exact hfits ⟨by omega, by simpa using hshort⟩
      rw [bind_eq_error]
      exact .inr ⟨place, h.leads, by rw [step_of_isPlain hx h.found, if_pos hlong]⟩
  rw [DiskEntry.putBytes, bind_eq_error]
  exact .inl hslot

theorem find?_eq_none_of_not_fits (hx : IsPlain x) (hfits : ¬ path.Fits x) :
    disk.find? (path ++ [x]) = none := by
  rw [find?]
  split
  · rename_i place hwalk
    obtain ⟨above, hslot, -, -⟩ := (walk_eq_ok_iff hx).mp hwalk
    exact absurd hslot.fits_path hfits
  · rfl

end DiskEntry

namespace Backing

open DiskEntry

variable {disk : DiskEntry} {path : DiskPath} {place : List Text} {x y : Text}
  {entries : Entries DiskEntry}

/-- Putting a file by way of another puts both and takes the other away again. -/
theorem putByWay_of_isFolderOf (h : disk.IsFolderOf path place entries) (hx : IsPlain x)
    (hy : IsPlain y) (hne : y ≠ x) (hxfits : path.Fits x) (hyfits : path.Fits y)
    (hxfree : ∀ below, Entries.get? x entries ≠ some (.folder below))
    (hyfree : ∀ below, Entries.get? y entries ≠ some (.folder below)) (bytes : List UInt8) :
    ∃ after, putByWay {} (path ++ [x]) (path ++ [y]) bytes disk = (.ok (), after) ∧
      after.IsFolderOf path place
        (Entries.erase x (Entries.put y (file bytes) (Entries.put x (file bytes) entries))) := by
  have hput := h.putBytes hx hxfits hxfree bytes
  have hdraft := h.set (some (file bytes)) hxfree
  have htarget : ∀ below, Entries.get? y (Entries.put x (file bytes) entries) ≠
      some (.folder below) := by
    intro below
    rw [Entries.get?_put_of_ne hne]
    exact hyfree below
  -- the text takes its place while the draft is still there, and then the draft goes
  have hmove := hdraft.replaceFile hx hy hxfits hyfits (Entries.get?_put_self x _ _) htarget
  refine ⟨_, ?_, (hdraft.set (some (file bytes)) htarget).set none fun below => ?_⟩
  · rw [putByWay, Trouble.putBytes_none_of_ok hput]
    dsimp only
    rw [Trouble.replaceFile_none_of_ok hmove]
  · show Entries.get? x (Entries.put y _ (Entries.put x _ _)) ≠ _
    rw [Entries.get?_put_of_ne hne.symm, Entries.get?_put_self]
    simp

theorem putByWay_of_not_fits (h : disk.IsFolderOf path place entries) (hx : IsPlain x)
    (hfits : ¬ path.Fits x) (final : DiskPath) (bytes : List UInt8) :
    putByWay {} (path ++ [x]) final bytes disk = (.error (.disk .nameTooLong), disk) := by
  rw [putByWay, Trouble.putBytes_none_of_error (h.putBytes_of_not_fits hx hfits bytes)]
  dsimp only
  rw [cleanUp, Trouble.sees, find?_eq_none_of_not_fits hx hfits]
  rfl

end Backing

end VirtualShell
