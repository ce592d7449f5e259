import VirtualShell.Proofs.Store.OneFolder
/-
  The folder that is made for a store.

  Every folder that comes up when one is made lies on the way to it: some first part of the way
  leads to it. A direct way never comes back from below, so the folder at its end is the last one
  that is made, and it is empty. So where the way is direct, what can be found in the folder is the
  same before it is made and after, and the same in between, if making it stops halfway.
-/

namespace VirtualShell.DiskEntry

variable {disk made : DiskEntry} {path way front rest : DiskPath} {place p q : List Text} {x : Text}
  {entries : Entries DiskEntry} {bytes : List UInt8} {mayExist : Bool}

/-! ## What is found in a folder -/

theorem bytesAt_eq_ok_iff_find? {way : DiskPath} :
    disk.bytesAt way = .ok bytes ↔ disk.find? way = some (.file bytes) := by
  rw [bytesAt, find?, bind_eq_ok]
  constructor
  · rintro ⟨p, hp, h⟩
    rw [hp]
    dsimp only
    split at h
    · rename_i found hfound
      cases h
      exact hfound
    · cases h
    · cases h
  · intro h
    split at h
    · rename_i p hp
      exact ⟨p, hp, by rw [h]; rfl⟩
    · cases h

theorem IsFolderOf.walk_append {entry : DiskEntry} (h : disk.IsFolderOf path place entries)
    (hx : IsPlain x) (hfits : path.Fits x) (hentry : Entries.get? x entries = some entry) :
    disk.walk (path ++ [x]) = .ok (place ++ [x]) :=
  (walk_eq_ok_iff hx).mpr ⟨place, h.isSlot hfits, by rw [h.at?_append, hentry]; rfl, rfl⟩

theorem IsFolderOf.find?_append (h : disk.IsFolderOf path place entries) (hx : IsPlain x) :
    disk.find? (path ++ [x]) = if path.Fits x then Entries.get? x entries else none := by
  split
  · rename_i hfits
    cases hentry : Entries.get? x entries with
    | some entry =>
      rw [find?, h.walk_append hx hfits hentry]
      exact (h.at?_append x).trans hentry
    | none =>
      rw [find?]
      split
      · rename_i p hwalk
        obtain ⟨place', hslot, -, rfl⟩ := (walk_eq_ok_iff hx).mp hwalk
        obtain rfl := hslot.unique (h.isSlot hfits)
        exact (h.at?_append x).trans hentry
      · rfl
  · rename_i hfits
    exact find?_eq_none_of_not_fits hx hfits

theorem IsFolderOf.removeFile (h : disk.IsFolderOf path place entries) (hx : IsPlain x)
    (hfits : path.Fits x) (hentry : Entries.get? x entries = some (file bytes)) :
    disk.removeFile (path ++ [x]) = .ok (disk.set (place ++ [x]) none) := by
  rw [DiskEntry.removeFile, bind_eq_ok]
  refine ⟨_, h.walk_append hx hfits hentry, ?_⟩
  rw [h.at?_append, hentry]
  rfl

theorem IsSlot.isFolderOf (h : disk.IsSlot path x place) :
    ∃ entries, disk.IsFolderOf path place entries := by
  obtain ⟨entries, hplace⟩ := h.isFolder
  refine ⟨entries, DiskPath.isTooLong_mono ?_ h.short, h.leads, hplace⟩
  rw [DiskPath.size_append]
  omega

/-- Where the path leads to no folder, nothing is found in one. -/
theorem find?_append_eq_none (hx : IsPlain x)
    (h : ∀ place entries, ¬ disk.IsFolderOf path place entries) :
    disk.find? (path ++ [x]) = none := by
  rw [find?]
  split
  · rename_i p hwalk
    obtain ⟨place, hslot, -, -⟩ := (walk_eq_ok_iff hx).mp hwalk
    obtain ⟨entries, hfolder⟩ := hslot.isFolderOf
    exact absurd hfolder (h place entries)
  · rfl

/-! ## The folders on the way -/

/-- Where one folder is made it is empty, and every other was there, with the same names or with
that of the new one besides. -/
theorem folder_at?_set (h : disk.at? p = none)
    (hq : (disk.set p (some (folder []))).at? q = some (folder entries)) :
    q = p ∧ entries = [] ∨ ∃ old, disk.at? q = some (folder old) ∧
      ((Entries.keys old).Nodup → (Entries.keys entries).Nodup) := by
  rcases places_cases p q with ⟨more, rfl⟩ | ⟨x, rest, rfl⟩ | ⟨r, x, y, rest, more, hne, rfl, rfl⟩
  · -- below the place there is nothing, neither before nor afterwards
    obtain ⟨above, x, rfl⟩ : ∃ above x, p = above ++ [x] := by
      rcases List.eq_nil_or_concat p with rfl | ⟨above, x, rfl⟩
      · cases h
      · exact ⟨above, x, List.concat_eq_append⟩
    rw [List.append_assoc, List.singleton_append, at?_append, at?_set_above] at hq
    cases hold : disk.at? above with
    | none =>
      rw [hold] at hq
      cases hq
    | some old =>
      rw [hold] at hq
      cases old with
      | file bytes => cases hq
      | folder below =>
        rw [Option.map_some, Option.bind_some, set, at?_folder_cons, Entries.get?_put_self] at hq
        cases more with
        | nil =>
          cases hq
          exact .inl ⟨List.append_nil _, rfl⟩
        | cons name more => cases hq
  · rw [at?_set_above] at hq
    obtain ⟨old, hold, hset⟩ := Option.map_eq_some_iff.mp hq
    cases old with
    | file bytes => cases hset
    | folder old =>
      refine .inr ⟨old, hold, fun hnodup => ?_⟩
      by_cases hrest : rest = []
      · subst hrest
        cases hset
        exact Entries.nodup_keys_put x _ hnodup
      · rw [set_folder_cons x hrest] at hset
        cases hset
        rwa [Entries.keys_modify]
  · rw [at?_set_beside hne] at hq
    exact .inr ⟨entries, hq, id⟩

theorem isFolderAt_of_set (h : disk.at? p = none)
    (hq : (disk.set p (some (folder []))).IsFolderAt q) : q = p ∨ disk.IsFolderAt q := by
  obtain ⟨below, hbelow⟩ := hq
  rcases folder_at?_set h hbelow with ⟨hqp, -⟩ | ⟨old, hold, -⟩
  · exact .inl hqp
  · exact .inr ⟨old, hold⟩

/-- A disk on which no folder has a name in it twice. -/
def HasDistinctNames (disk : DiskEntry) : Prop :=
  ∀ place entries, disk.at? place = some (folder entries) → (Entries.keys entries).Nodup

theorem hasDistinctNames_file (bytes : List UInt8) : (file bytes).HasDistinctNames := by
  intro place entries h
  cases place <;> cases h

theorem hasDistinctNames_folder (hnodup : (Entries.keys entries).Nodup)
    (h : ∀ e ∈ entries, HasDistinctNames e.2) : (folder entries).HasDistinctNames := by
  intro place below hbelow
  cases place with
  | nil =>
    cases hbelow
    exact hnodup
  | cons x place =>
    rw [at?_folder_cons] at hbelow
    obtain ⟨entry, hentry, hbelow⟩ := Option.bind_eq_some_iff.mp hbelow
    exact h _ (Entries.mem_of_get? hentry) place below hbelow

theorem HasDistinctNames.makeFolder (hd : disk.HasDistinctNames)
    (h : disk.makeFolder path = .ok made) : made.HasDistinctNames := by
  rw [DiskEntry.makeFolder, bind_eq_ok] at h
  obtain ⟨p, -, h⟩ := h
  split at h
  · cases h
  · rename_i hnone
    cases h
    intro place entries hentries
    rcases folder_at?_set hnone hentries with ⟨-, rfl⟩ | ⟨old, hold, hkept⟩
    · exact List.nodup_nil
    · exact hkept (hd place old hold)

/-- Where a path ends in nothing that is there, its last name is plain and all before it leads
to a folder. -/
theorem exists_isSlot_of_slot (hslot : disk.slot path = .ok p) (hnone : disk.at? p = none) :
    ∃ way name place, path = way ++ [name] ∧ IsPlain name ∧ disk.IsSlot way name place ∧
      p = place ++ [name] := by
  rcases List.eq_nil_or_concat path with rfl | ⟨way, name, rfl⟩
  · cases hslot
    cases hnone
  rw [List.concat_eq_append] at hslot ⊢
  refine ⟨way, name, ?_⟩
  have hplain : IsPlain name := by
    rw [slot_append_singleton] at hslot
    split at hslot
    · cases hslot
    rw [bind_eq_ok] at hslot
    obtain ⟨place, -, hstep⟩ := hslot
    by_cases hfolder : disk.IsFolderAt place
    · obtain ⟨entries, hplace⟩ := hfolder
      rw [step, hplace] at hstep
      dsimp only at hstep
      -- the folder itself is there, and so is the one above it
      refine ⟨fun hdot => ?_, fun hempty => ?_, fun hup => ?_⟩
      · rw [if_pos (by simp [hdot])] at hstep
        cases hstep
        rw [hplace] at hnone
        cases hnone
      · rw [if_pos (by simp [hempty])] at hstep
        cases hstep
        rw [hplace] at hnone
        cases hnone
      · rw [if_neg (by rw [hup]; decide), if_pos hup] at hstep
        cases hstep
        have habove : disk.IsFolderAt place.dropLast := by
          rcases List.eq_nil_or_concat place with rfl | ⟨above, last, rfl⟩
          · exact ⟨entries, hplace⟩
          · rw [List.concat_eq_append] at hplace ⊢
            rw [List.dropLast_concat]
            exact IsFolderAt.above ⟨entries, hplace⟩
        obtain ⟨below, hbelow⟩ := habove
        rw [hnone] at hbelow
        cases hbelow
    · rw [step_of_not_isFolderAt hfolder] at hstep
      cases hstep
  obtain ⟨place, hplace, rfl⟩ := (slot_eq_ok_iff hplain).mp hslot
  exact ⟨place, rfl, hplain, hplace, rfl⟩

theorem isFolderAt_of_makeFolder (h : disk.makeFolder path = .ok made) (hq : made.IsFolderAt q) :
    disk.IsFolderAt q ∨ path.foldlM made.step [] = .ok q := by
  have hadds := addsFolders_makeFolder h
  rw [makeFolder, bind_eq_ok] at h
  obtain ⟨p, hslot, h⟩ := h
  split at h
  · cases h
  rename_i hnone
  cases h
  rcases isFolderAt_of_set hnone hq with rfl | hold
  · obtain ⟨way, name, place, rfl, hplain, hplace, rfl⟩ := exists_isSlot_of_slot hslot hnone
    have hkept := hplace.keeps hadds.folders
    obtain ⟨entries, hentries⟩ := hkept.isFolder
    refine .inr ?_
    rw [foldlM_step_append, hkept.leads]
    show step _ _ _ = _
    obtain ⟨below, hbelow⟩ := hq
    rw [step_of_isPlain hplain hentries, if_neg (by have := hkept.fits; omega),
      has_iff_isSome hentries, hbelow]
    rfl
  · exact .inl hold

/-- What making one folder keeps, making folders up a way keeps. -/
theorem makeFoldersUp_induction {P : DiskEntry → Prop}
    (hstep : ∀ disk made path, P disk → makeFolder path disk = .ok made → P made)
    (mayExist : Bool) (names : List Text) (h : P disk) :
    P (makeFoldersUp mayExist names disk).2 := by
  induction names generalizing disk with
  | nil => exact h
  | cons name above ih =>
    rw [makeFoldersUp]
    generalize (above ≠ [] && (disk.find? above.reverse).isNone : Bool) = lacking
    dsimp only
    generalize hway : (if lacking then makeFoldersUp mayExist above disk else (.ok (), disk)) = way
    have hlacked : P way.2 := by
      rw [← hway]
      split
      · exact ih h
      · exact h
    refine iteInduction (motive := fun found : Except DiskFault Unit × DiskEntry => P found.2) ?_
      fun _ => hlacked
    intro _
    split
    · exact hlacked
    split
    · rename_i last hlast
      exact hstep _ _ _ hlacked hlast
    · exact hlacked

theorem HasDistinctNames.makeFolders (hd : disk.HasDistinctNames) (mayExist : Bool)
    (path : DiskPath) : (disk.makeFolders mayExist path).2.HasDistinctNames :=
  makeFoldersUp_induction (fun _ _ _ hd h => hd.makeFolder h) mayExist _ hd

/-- A first part of the way leads to every folder that comes up. -/
theorem isFolderAt_of_makeFoldersUp {names : List Text}
    (h : (makeFoldersUp mayExist names disk).2.IsFolderAt q) :
    disk.IsFolderAt q ∨ ∃ above, above <:+ names ∧
      above.reverse.foldlM (makeFoldersUp mayExist names disk).2.step [] = .ok q := by
  induction names generalizing disk with
  | nil => exact .inl h
  | cons name above ih =>
    revert h
    rw [makeFoldersUp]
    generalize (above ≠ [] && (disk.find? above.reverse).isNone : Bool) = lacking
    dsimp only
    generalize hway : (if lacking then makeFoldersUp mayExist above disk else (.ok (), disk)) = way
    -- what the way lacked comes first, and a first part of the way leads there
    have hlacked : way.2.IsFolderAt q → disk.IsFolderAt q ∨
        ∃ part, part <:+ above ∧ part.reverse.foldlM way.2.step [] = .ok q := by
      rw [← hway]
      split
      · exact ih
      · exact .inl
    have hlonger : way.2.IsFolderAt q → disk.IsFolderAt q ∨
        ∃ part, part <:+ name :: above ∧ part.reverse.foldlM way.2.step [] = .ok q := by
      intro hq
      rcases hlacked hq with hold | ⟨part, hpart, hleads⟩
      · exact .inl hold
      · exact .inr ⟨part, hpart.trans (List.suffix_cons name above), hleads⟩
    refine iteInduction (motive := fun found : Except DiskFault Unit × DiskEntry =>
      found.2.IsFolderAt q → disk.IsFolderAt q ∨ ∃ part, part <:+ name :: above ∧
        part.reverse.foldlM found.2.step [] = .ok q) ?_ fun _ => hlonger
    intro _
    split
    · exact hlonger
    split
    · rename_i last hlast
      intro hq
      rcases isFolderAt_of_makeFolder hlast hq with hbefore | hleads
      · rcases hlonger hbefore with hold | ⟨part, hpart, hleads⟩
        · exact .inl hold
        · exact .inr ⟨part, hpart, (addsFolders_makeFolder hlast).folders.foldlM hleads hbefore⟩
      · exact .inr ⟨name :: above, List.suffix_rfl, hleads⟩
    · exact hlonger

/-! ## The folder at the end of a direct way -/

/-- A first part of a way to a folder leads to a folder. -/
theorem isFolderAt_of_prefix {rest : DiskPath} (h : (way ++ rest).foldlM disk.step p = .ok q)
    (hq : disk.IsFolderAt q) :
    ∃ r, way.foldlM disk.step p = .ok r ∧ disk.IsFolderAt r ∧ rest.foldlM disk.step r = .ok q := by
  rw [List.foldlM_append, bind_eq_ok] at h
  obtain ⟨r, hr, hrest⟩ := h
  exact ⟨r, hr, isFolderAt_of_foldlM hrest hq, hrest⟩

/-- A direct way does not lead on from a folder below its end that was lacking. -/
theorem IsDirect.not_leads_below {part rest : DiskPath} (hd : disk.IsDirect path)
    (hk : KeepsFolders disk made) (hpath : path.filter (· ≠ []) = part ++ rest)
    (hend : (path.filter (· ≠ [])).foldlM made.step [] = .ok p)
    (hpart : part.foldlM made.step [] = .ok (p ++ [x])) :
    disk.IsFolderAt (p ++ [x]) := by
  obtain ⟨base, more, place, rfl, hbase, hplace, hup⟩ := hd
  rw [List.filter_append] at hpath hend
  have hfirst := foldlM_step_filter hbase
  rcases List.append_eq_append_iff.mp hpath with ⟨c, rfl, hmore⟩ | ⟨c, hpartial, rfl⟩
  · -- the part goes past what is there, and what is left of the way leads down
    exfalso
    have hrest : Text.ofString ".." ∉ rest := fun hmem =>
      hup (List.mem_of_mem_filter (hmore ▸ List.mem_append_right c hmem))
    have hback : rest.foldlM made.step (p ++ [x]) = .ok p := by
      rw [hmore, ← List.append_assoc, List.foldlM_append, hpart] at hend
      exact hend
    obtain ⟨below, hbelow⟩ := exists_append_of_foldlM hrest hback
    have hlength := congrArg List.length hbelow
    simp at hlength
  · -- the part ends where everything is there already
    rw [hpartial] at hfirst
    obtain ⟨r, hr, hfolder, -⟩ := isFolderAt_of_prefix hfirst hplace
    rw [hk.foldlM hr hfolder] at hpart
    cases hpart
    exact hfolder

/-- Along a direct way, a folder that was lacking is empty once it is made, be it the last one of the
way that is made or an earlier one. -/
theorem IsFolderOf.eq_nil_of_lacking (hd : disk.IsDirect (front ++ rest))
    (h : (disk.makeFolders mayExist front).2.IsFolderOf (front ++ rest) place entries)
    (hplace : ¬ disk.IsFolderAt place) : entries = [] := by
  have hadds := addsFolders_makeFolders mayExist front disk
  cases entries with
  | nil => rfl
  | cons first more =>
    exfalso
    have hfirst := h.at?_append first.1
    rw [Entries.get?, if_pos rfl] at hfirst
    have hbelow : disk.IsFolderAt (place ++ [first.1]) → False := fun hold => hplace hold.above
    cases hentry : first.2 with
    | file bytes =>
      rw [hentry, hadds.files] at hfirst
      exact hplace (isFolderAt_of_file_below hfirst)
    | folder below =>
      -- a folder that came up below the end of the way would have the way go on and come back
      rw [hentry] at hfirst
      rcases isFolderAt_of_makeFoldersUp ⟨below, hfirst⟩ with hold | ⟨part, hpart, hleads⟩
      · exact hbelow hold
      · obtain ⟨last, hfront⟩ := List.reverse_prefix.mpr hpart
        rw [List.reverse_reverse] at hfront
        have hpath : (front ++ rest).filter (· ≠ []) =
            part.reverse ++ (last ++ rest.filter (· ≠ [])) := by
          rw [List.filter_append, ← hfront, List.append_assoc]
        exact hbelow (hd.not_leads_below hadds.folders hpath h.filter.leads hleads)

/-- Where a way leads to a folder, none of the folders on it is made again. -/
theorem IsFolderOf.makeFolders_front (h : disk.IsFolderOf (front ++ rest) place entries) :
    disk.makeFolders true front = (.ok (), disk) := by
  obtain ⟨above, hfront, ⟨below, habove⟩, -⟩ := isFolderAt_of_prefix h.leads h.isFolderAt
  have hshort : DiskPath.isTooLong front = false :=
    DiskPath.isTooLong_mono (by rw [DiskPath.size_append]; omega) h.short
  exact IsFolderOf.makeFolders ⟨hshort, hfront, habove⟩

/-- Along a direct way the folder is there already, or nothing is in it once folders are made. -/
theorem IsFolderOf.of_makeFolders (hd : disk.IsDirect (front ++ rest))
    (h : (disk.makeFolders true front).2.IsFolderOf (front ++ rest) place entries) :
    disk.IsFolderOf (front ++ rest) place entries ∨
      entries = [] ∧ ∀ p below, ¬ disk.IsFolderOf (front ++ rest) p below := by
  have hadds := addsFolders_makeFolders true front disk
  by_cases hplace : disk.IsFolderAt place
  · obtain ⟨base, more, first, hpath, hbase, hfirst, hup⟩ := hd
    have hleads := h.leads
    rw [hpath, List.foldlM_append, hadds.folders.foldlM hbase hfirst] at hleads
    obtain ⟨old, hold⟩ := hplace
    have hbefore : disk.IsFolderOf (front ++ rest) place old := by
      refine ⟨h.short, ?_, hold⟩
      rw [hpath, List.foldlM_append, hbase]
      exact foldlM_step_of_isFolderAt hup hleads ⟨old, hold⟩
    rw [hbefore.makeFolders_front] at h
    exact .inl h
  · refine .inr ⟨h.eq_nil_of_lacking hd hplace, fun p below hbefore => hplace ?_⟩
    have hleads := hadds.folders.foldlM hbefore.leads hbefore.isFolderAt
    rw [h.leads] at hleads
    cases hleads
    exact hbefore.isFolderAt

/-- Along a direct way, making folders on it changes nothing of what is found in the last one. -/
theorem find?_append_makeFolders (hd : disk.IsDirect (front ++ rest)) (hx : IsPlain x) :
    (disk.makeFolders true front).2.find? (front ++ rest ++ [x]) =
      disk.find? (front ++ rest ++ [x]) := by
  by_cases hfolder : ∃ place entries,
      (disk.makeFolders true front).2.IsFolderOf (front ++ rest) place entries
  · obtain ⟨place, entries, h⟩ := hfolder
    rcases h.of_makeFolders hd with hbefore | ⟨rfl, hlacking⟩
    · rw [hbefore.makeFolders_front]
    · rw [h.find?_append hx, find?_append_eq_none hx hlacking]
      exact ite_self none
  · have hlacking : ∀ place entries, ¬ disk.IsFolderOf (front ++ rest) place entries := by
      intro place entries hbefore
      exact hfolder ⟨place, entries, by rwa [hbefore.makeFolders_front]⟩
    rw [find?_append_eq_none hx hlacking]
    exact find?_append_eq_none hx fun place entries h => hfolder ⟨place, entries, h⟩

end VirtualShell.DiskEntry
