import VirtualShell.Proofs.Entries
import VirtualShell.Proofs.Json.Distinct
import VirtualShell.Store.Disk
/-
  What stays where it is on a disk.

  Putting a file somewhere or taking it away leaves every folder a folder, and a path that leads
  to a folder leads through folders only. So whatever is done to a file, the way to the folder
  it lies in stays the same, and so does every other file in that folder.
-/

namespace VirtualShell.DiskEntry

variable {disk disk' : DiskEntry} {way : DiskPath} {place p q : List Text} {x y name : Text}
  {bytes : List UInt8}

/-! ## Folders -/

/-- Whether a folder stands under the names. -/
def IsFolderAt (disk : DiskEntry) (place : List Text) : Prop :=
  ∃ entries, disk.at? place = some (folder entries)

/-- Every folder of the one disk is a folder of the other. -/
def KeepsFolders (disk disk' : DiskEntry) : Prop := ∀ p, disk.IsFolderAt p → disk'.IsFolderAt p

theorem KeepsFolders.trans {disk'' : DiskEntry} (h : KeepsFolders disk disk')
    (h' : KeepsFolders disk' disk'') : KeepsFolders disk disk'' :=
  fun p hp => h' p (h p hp)

theorem at?_folder_cons (name : Text) (p : List Text) (entries : Entries DiskEntry) :
    at? (name :: p) (folder entries) = (Entries.get? name entries).bind (at? p) := rfl

theorem at?_append (p q : List Text) (disk : DiskEntry) :
    disk.at? (p ++ q) = (disk.at? p).bind (at? q) := by
  induction p generalizing disk with
  | nil => rfl
  | cons name p ih =>
    cases disk with
    | file => rfl
    | folder entries =>
      rw [List.cons_append, at?_folder_cons, at?_folder_cons]
      cases Entries.get? name entries with
      | none => rfl
      | some entry => exact ih entry

theorem at?_append_singleton {entries : Entries DiskEntry}
    (h : disk.at? place = some (folder entries)) (name : Text) :
    disk.at? (place ++ [name]) = Entries.get? name entries := by
  rw [at?_append, h, Option.bind_some, at?_folder_cons]
  cases Entries.get? name entries <;> rfl

/-! ## Steps -/

theorem step_of_not_isFolderAt (h : ¬ disk.IsFolderAt p) : disk.step p name = .error .notFolder := by
  rw [step]
  split
  · rename_i entries hp
    exact absurd ⟨entries, hp⟩ h
  · rfl

theorem isFolderAt_of_step (h : disk.step p name = .ok q) : disk.IsFolderAt p := by
  by_cases hp : disk.IsFolderAt p
  · exact hp
  · rw [step_of_not_isFolderAt hp] at h
    cases h

theorem isFolderAt_of_foldlM (h : way.foldlM disk.step p = .ok q) (hq : disk.IsFolderAt q) :
    disk.IsFolderAt p := by
  cases way with
  | nil =>
    cases h
    exact hq
  | cons name way =>
    rw [List.foldlM_cons, bind_eq_ok] at h
    obtain ⟨r, hr, -⟩ := h
    exact isFolderAt_of_step hr

/-- A step goes the same way on every disk where both its ends are folders. -/
theorem step_of_isFolderAt (h : disk'.step p name = .ok q) (hp : disk.IsFolderAt p)
    (hq : disk.IsFolderAt q) : disk.step p name = .ok q := by
  obtain ⟨entries', hp'⟩ := isFolderAt_of_step h
  obtain ⟨entries, hp⟩ := hp
  rw [DiskEntry.step, hp'] at h
  rw [DiskEntry.step, hp]
  dsimp only at h ⊢
  split at h
  · rename_i hdot
    rw [if_pos hdot, h]
  rename_i hdot
  rw [if_neg hdot]
  split at h
  · rename_i hup
    rw [if_pos hup, h]
  rename_i hup
  rw [if_neg hup]
  split at h
  · cases h
  rename_i hlong
  rw [if_neg hlong]
  split at h
  · cases h
    obtain ⟨below, hbelow⟩ := hq
    rw [at?_append_singleton hp] at hbelow
    rw [if_pos (by rw [Entries.has, hbelow]; rfl)]
  · cases h

theorem KeepsFolders.step (hk : KeepsFolders disk disk') (h : disk.step p name = .ok q)
    (hq : disk.IsFolderAt q) : disk'.step p name = .ok q :=
  step_of_isFolderAt h (hk p (isFolderAt_of_step h)) (hk q hq)

theorem KeepsFolders.foldlM (hk : KeepsFolders disk disk') (h : way.foldlM disk.step p = .ok q)
    (hq : disk.IsFolderAt q) : way.foldlM disk'.step p = .ok q := by
  induction way generalizing p with
  | nil => exact h
  | cons name way ih =>
    rw [List.foldlM_cons, bind_eq_ok] at h ⊢
    obtain ⟨r, hr, hway⟩ := h
    exact ⟨r, hk.step hr (isFolderAt_of_foldlM hway hq), ih hway⟩

/-! ## Changing one entry -/

theorem set_folder_cons (name : Text) (hp : p ≠ []) (entry : Option DiskEntry)
    (entries : Entries DiskEntry) :
    set (name :: p) entry (folder entries) = folder (Entries.modify name (set p entry) entries) := by
  obtain ⟨next, names, rfl⟩ := List.exists_cons_of_ne_nil hp
  rw [set]

theorem not_isFolderAt_file (bytes : List UInt8) (p : List Text) : ¬ (file bytes).IsFolderAt p := by
  rintro ⟨entries, h⟩
  cases p <;> cases h

theorem IsFolderAt.above {more : List Text} (h : disk.IsFolderAt (p ++ more)) :
    disk.IsFolderAt p := by
  obtain ⟨entries, h⟩ := h
  rw [at?_append, Option.bind_eq_some_iff] at h
  obtain ⟨entry, hp, hmore⟩ := h
  cases entry with
  | file bytes => exact absurd ⟨entries, hmore⟩ (not_isFolderAt_file bytes more)
  | folder below => exact ⟨below, hp⟩

/-- Two ways down part at some point, or the one goes on where the other ends. -/
theorem places_cases (p q : List Text) :
    (∃ more, q = p ++ more) ∨ (∃ x rest, p = q ++ x :: rest) ∨
      ∃ r x y rest more, x ≠ y ∧ p = r ++ x :: rest ∧ q = r ++ y :: more := by
  induction p generalizing q with
  | nil => exact .inl ⟨q, rfl⟩
  | cons x p ih =>
    cases q with
    | nil => exact .inr (.inl ⟨x, p, rfl⟩)
    | cons y q =>
      by_cases hxy : x = y
      · subst hxy
        rcases ih q with ⟨more, rfl⟩ | ⟨z, rest, rfl⟩ | ⟨r, z, w, rest, more, hne, rfl, rfl⟩
        · exact .inl ⟨more, rfl⟩
        · exact .inr (.inl ⟨z, rest, rfl⟩)
        · exact .inr (.inr ⟨x :: r, z, w, rest, more, hne, rfl, rfl⟩)
      · exact .inr (.inr ⟨[], x, y, p, q, hxy, rfl, rfl⟩)

/-- Above the place that is changed the change is one inside. -/
theorem at?_set_above (disk : DiskEntry) (q : List Text) (x : Text) (rest : List Text)
    (entry : Option DiskEntry) :
    (disk.set (q ++ x :: rest) entry).at? q = (disk.at? q).map (set (x :: rest) entry) := by
  induction q generalizing disk with
  | nil => rfl
  | cons first q ih =>
    cases disk with
    | file bytes => rfl
    | folder entries =>
      rw [List.cons_append, set_folder_cons first (by simp), at?_folder_cons, at?_folder_cons,
        Entries.get?_modify_self]
      cases Entries.get? first entries with
      | none => rfl
      | some old => exact ih old

theorem at?_set_cons_of_ne (hne : x ≠ y) (rest more : List Text) (entry : Option DiskEntry)
    (disk : DiskEntry) : (disk.set (x :: rest) entry).at? (y :: more) = disk.at? (y :: more) := by
  cases disk with
  | file bytes => rfl
  | folder entries =>
    by_cases hrest : rest = []
    · subst hrest
      cases entry with
      | none => rw [set, at?_folder_cons, at?_folder_cons, Entries.get?_erase_of_ne hne.symm]
      | some entry => rw [set, at?_folder_cons, at?_folder_cons, Entries.get?_put_of_ne hne.symm]
    · rw [set_folder_cons x hrest, at?_folder_cons, at?_folder_cons,
        Entries.get?_modify_of_ne hne.symm]

/-- Beside the place that is changed everything is as before. -/
theorem at?_set_beside (hne : x ≠ y) (r rest more : List Text) (entry : Option DiskEntry)
    (disk : DiskEntry) :
    (disk.set (r ++ x :: rest) entry).at? (r ++ y :: more) = disk.at? (r ++ y :: more) := by
  rw [at?_append, at?_append, at?_set_above]
  cases disk.at? r with
  | none => rfl
  | some old => exact at?_set_cons_of_ne hne rest more entry old

theorem isFolder_set_cons (x : Text) (rest : List Text) (entry : Option DiskEntry)
    (entries : Entries DiskEntry) :
    ∃ entries', set (x :: rest) entry (folder entries) = folder entries' := by
  cases rest with
  | nil => cases entry <;> exact ⟨_, rfl⟩
  | cons name rest => exact ⟨_, set_folder_cons x (by simp) entry entries⟩

/-- Where there is no folder, something can be put or taken away and every folder stays. -/
theorem keepsFolders_set (entry : Option DiskEntry) (h : ¬ disk.IsFolderAt p) :
    KeepsFolders disk (disk.set p entry) := by
  intro q hq
  -- nothing is a folder below the place, and what is above or beside it stays one
  rcases places_cases p q with ⟨more, rfl⟩ | ⟨x, rest, rfl⟩ | ⟨r, x, y, rest, more, hne, rfl, rfl⟩
  · exact absurd hq.above h
  · obtain ⟨entries, hfolder⟩ := hq
    obtain ⟨entries', hset⟩ := isFolder_set_cons x rest entry entries
    exact ⟨entries', by rw [at?_set_above, hfolder, Option.map_some, hset]⟩
  · obtain ⟨entries, hfolder⟩ := hq
    exact ⟨entries, by rw [at?_set_beside hne, hfolder]⟩

theorem at?_set_self (entry : DiskEntry) (h : disk.IsFolderAt place) (name : Text) :
    (disk.set (place ++ [name]) (some entry)).at? (place ++ [name]) = some entry := by
  obtain ⟨entries, hplace⟩ := h
  rw [at?_append, at?_set_above, hplace, Option.map_some, Option.bind_some, set, at?_folder_cons,
    Entries.get?_put_self]
  rfl

theorem at?_set_of_ne (entry : Option DiskEntry) (hne : y ≠ x) (disk : DiskEntry)
    (place : List Text) :
    (disk.set (place ++ [x]) entry).at? (place ++ [y]) = disk.at? (place ++ [y]) :=
  at?_set_beside hne.symm place [] [] entry disk

/-! ## The file at the end of a path -/

/-- A name that stands for itself, and not for the folder it is looked up in or the one above. -/
def IsPlain (name : Text) : Prop := name ≠ "." ∧ name ≠ [] ∧ name ≠ ".."

/-- Where a path leads that ends in a plain name: the folder that all but the name leads to,
whatever may stand there under the name. -/
structure IsSlot (disk : DiskEntry) (way : DiskPath) (name : Text) (place : List Text) : Prop where
  short : DiskPath.isTooLong (way ++ [name]) = false
  fits : FileName.size name ≤ 255
  leads : way.foldlM disk.step [] = .ok place
  isFolder : disk.IsFolderAt place

theorem IsSlot.keeps (h : IsSlot disk way name place) (hk : KeepsFolders disk disk') :
    IsSlot disk' way name place :=
  ⟨h.short, h.fits, hk.foldlM h.leads h.isFolder, hk place h.isFolder⟩

theorem IsSlot.unique (hp : IsSlot disk way x p) (hq : IsSlot disk way y q) : p = q := by
  have h := hp.leads
  rw [hq.leads] at h
  cases h
  rfl

theorem step_of_isPlain (hn : IsPlain name) {entries : Entries DiskEntry}
    (h : disk.at? place = some (folder entries)) :
    disk.step place name =
      if 255 < FileName.size name then .error .nameTooLong
      else if Entries.has name entries then .ok (place ++ [name])
      else .error .notFound := by
  obtain ⟨hdot, hempty, hup⟩ := hn
  rw [DiskEntry.step, h]
  dsimp only
  rw [if_neg (by simp [hdot, hempty]), if_neg hup]

/-- Whether something stands in a folder under a name. -/
theorem has_iff_isSome {entries : Entries DiskEntry} (h : disk.at? place = some (folder entries))
    (name : Text) : Entries.has name entries = (disk.at? (place ++ [name])).isSome := by
  rw [Entries.has, at?_append_singleton h]

theorem foldlM_step_append (disk : DiskEntry) (way : DiskPath) (name : Text) :
    (way ++ [name]).foldlM disk.step [] =
      way.foldlM disk.step [] >>= fun place => disk.step place name := by
  simp [List.foldlM_append]

theorem walk_eq_ok_iff (hn : IsPlain name) :
    disk.walk (way ++ [name]) = .ok p ↔
      ∃ place, IsSlot disk way name place ∧ (disk.at? (place ++ [name])).isSome ∧
        p = place ++ [name] := by
  rw [walk, foldlM_step_append]
  constructor
  · intro h
    split at h
    · cases h
    rename_i hshort
    rw [bind_eq_ok] at h
    obtain ⟨place, hway, hstep⟩ := h
    obtain ⟨entries, hplace⟩ := isFolderAt_of_step hstep
    rw [step_of_isPlain hn hplace] at hstep
    split at hstep
    · cases hstep
    rename_i hfits
    split at hstep
    · rename_i hhas
      cases hstep
      rw [has_iff_isSome hplace] at hhas
      exact ⟨place, ⟨by simpa using hshort, by omega, hway, entries, hplace⟩, hhas, rfl⟩
    · cases hstep
  · rintro ⟨place, hslot, hsome, rfl⟩
    obtain ⟨entries, hplace⟩ := hslot.isFolder
    have hfits := hslot.fits
    rw [if_neg (by simp [hslot.short]), bind_eq_ok]
    refine ⟨place, hslot.leads, ?_⟩
    rw [step_of_isPlain hn hplace, if_neg (by omega), has_iff_isSome hplace, if_pos hsome]

theorem slot_append_singleton (disk : DiskEntry) (way : DiskPath) (name : Text) :
    disk.slot (way ++ [name]) =
      if DiskPath.isTooLong (way ++ [name]) then .error .nameTooLong
      else way.foldlM disk.step [] >>= fun place => match disk.step place name with
        | .error .notFound => .ok (place ++ [name])
        | found => found := by
  rw [slot, List.getLast?_concat, List.dropLast_concat]
  split <;> rfl

theorem slot_eq_ok_iff (hn : IsPlain name) :
    disk.slot (way ++ [name]) = .ok p ↔
      ∃ place, IsSlot disk way name place ∧ p = place ++ [name] := by
  rw [slot_append_singleton]
  constructor
  · intro h
    split at h
    · cases h
    rename_i hshort
    rw [bind_eq_ok] at h
    obtain ⟨place, hway, hstep⟩ := h
    by_cases hfolder : disk.IsFolderAt place
    · obtain ⟨entries, hplace⟩ := hfolder
      rw [step_of_isPlain hn hplace] at hstep
      by_cases hfits : 255 < FileName.size name
      · rw [if_pos hfits] at hstep
        cases hstep
      refine ⟨place, ⟨by simpa using hshort, by omega, hway, entries, hplace⟩, ?_⟩
      rw [if_neg hfits] at hstep
      by_cases hhas : Entries.has name entries = true
      · rw [if_pos hhas] at hstep
        cases hstep
        rfl
      · rw [if_neg hhas] at hstep
        cases hstep
        rfl
    · rw [step_of_not_isFolderAt hfolder] at hstep
      cases hstep
  · rintro ⟨place, hslot, rfl⟩
    obtain ⟨entries, hplace⟩ := hslot.isFolder
    have hfits := hslot.fits
    rw [if_neg (by simp [hslot.short]), bind_eq_ok]
    refine ⟨place, hslot.leads, ?_⟩
    rw [step_of_isPlain hn hplace, if_neg (by omega)]
    by_cases hhas : Entries.has name entries = true
    · rw [if_pos hhas]
    · rw [if_neg hhas]

/-! ## Reading and writing one file -/

theorem bytesAt_eq_ok_iff (hn : IsPlain name) :
    disk.bytesAt (way ++ [name]) = .ok bytes ↔
      ∃ place, IsSlot disk way name place ∧ disk.at? (place ++ [name]) = some (file bytes) := by
  rw [bytesAt, bind_eq_ok]
  constructor
  · rintro ⟨p, hp, h⟩
    obtain ⟨place, hslot, -, rfl⟩ := (walk_eq_ok_iff hn).mp hp
    split at h
    · rename_i found hfound
      cases h
      exact ⟨place, hslot, hfound⟩
    · cases h
    · cases h
  · rintro ⟨place, hslot, hfile⟩
    refine ⟨place ++ [name], (walk_eq_ok_iff hn).mpr ⟨place, hslot, by rw [hfile]; rfl, rfl⟩, ?_⟩
    rw [hfile]
    rfl

theorem putBytes_eq_ok (hn : IsPlain name) (h : disk.putBytes (way ++ [name]) bytes = .ok disk') :
    ∃ place, IsSlot disk way name place ∧ ¬ disk.IsFolderAt (place ++ [name]) ∧
      disk' = disk.set (place ++ [name]) (some (file bytes)) := by
  rw [putBytes, bind_eq_ok] at h
  obtain ⟨p, hp, h⟩ := h
  obtain ⟨place, hslot, rfl⟩ := (slot_eq_ok_iff hn).mp hp
  refine ⟨place, hslot, ?_⟩
  split at h
  · cases h
  · rename_i hnot
    cases h
    exact ⟨fun ⟨entries, hfound⟩ => hnot entries hfound, rfl⟩

theorem replaceFile_eq_ok (hx : IsPlain x) (hy : IsPlain y)
    (h : disk.replaceFile (way ++ [x]) (way ++ [y]) = .ok disk') :
    ∃ place bytes, IsSlot disk way x place ∧ IsSlot disk way y place ∧
      disk.at? (place ++ [x]) = some (file bytes) ∧ ¬ disk.IsFolderAt (place ++ [y]) ∧
      disk' = (disk.set (place ++ [y]) (some (file bytes))).set (place ++ [x]) none := by
  rw [replaceFile, bind_eq_ok] at h
  obtain ⟨p, hp, h⟩ := h
  rw [bind_eq_ok] at h
  obtain ⟨q, hq, h⟩ := h
  obtain ⟨place, hslot, -, rfl⟩ := (walk_eq_ok_iff hx).mp hp
  obtain ⟨place', hslot', rfl⟩ := (slot_eq_ok_iff hy).mp hq
  obtain rfl := hslot.unique hslot'
  split at h
  · cases h
  · rename_i bytes hfile hnot
    cases h
    exact ⟨place, bytes, hslot, hslot', hfile, fun ⟨entries, hfound⟩ => hnot entries hfound, rfl⟩
  · cases h
  · cases h

/-- What is put into one file and moved over another is what the other holds afterwards. -/
theorem bytesAt_of_replaceFile {moved : DiskEntry} (hx : IsPlain x) (hy : IsPlain y) (hne : y ≠ x)
    (hput : disk.putBytes (way ++ [x]) bytes = .ok disk')
    (hmove : disk'.replaceFile (way ++ [x]) (way ++ [y]) = .ok moved) :
    moved.bytesAt (way ++ [y]) = .ok bytes := by
  obtain ⟨place, hslot, hnot, rfl⟩ := putBytes_eq_ok hx hput
  obtain ⟨place', found, hx', hy', hfile, hnot', rfl⟩ := replaceFile_eq_ok hx hy hmove
  obtain rfl := (hslot.keeps (keepsFolders_set _ hnot)).unique hx'
  have hfirst : (disk.set (place ++ [x]) (some (file bytes))).at? (place ++ [x]) =
      some (file bytes) := at?_set_self _ hslot.isFolder x
  rw [hfirst] at hfile
  cases hfile
  -- the file that is moved away is still there after the other was replaced
  generalize disk.set (place ++ [x]) (some (file bytes)) = written at *
  have hsource : ¬ (written.set (place ++ [y]) (some (file bytes))).IsFolderAt (place ++ [x]) := by
    rintro ⟨entries, hfolder⟩
    rw [at?_set_of_ne _ hne.symm, hfirst] at hfolder
    cases hfolder
  refine (bytesAt_eq_ok_iff hy).mpr ⟨place,
    hy'.keeps ((keepsFolders_set _ hnot').trans (keepsFolders_set _ hsource)), ?_⟩
  rw [at?_set_of_ne _ hne, at?_set_self _ hy'.isFolder]

end VirtualShell.DiskEntry
