import VirtualShell.Store.Basic
/-
  What is left of an access in trouble.

  An access that succeeds goes as on a disk that makes no trouble. One that fails does so by a fault
  of the disk, and leaves the disk as it was but for two: of the folders of a way the first may have
  been made, and of the bytes of a file the first may have been put. Cleaning up never succeeds; at
  most it removes the draft.
-/

namespace VirtualShell

variable {α : Type} {trouble : Trouble} {path source target : DiskPath} {bytes : List UInt8}
  {disk made after : DiskEntry} {fault : StoreFault}

/-! ## Faults of the disk -/

theorem mapError_eq_ok {ε ε' : Type} {found : Except ε α} {f : ε → ε'} {a : α} :
    found.mapError f = .ok a ↔ found = .ok a := by
  cases found with
  | ok b => constructor <;> intro h <;> cases h <;> rfl
  | error fault => constructor <;> intro h <;> cases h

theorem isOfDisk_of_mapError {found : Except DiskFault α}
    (h : found.mapError StoreFault.disk = .error fault) : fault.isOfDisk = true := by
  cases found with
  | ok => cases h
  | error cause =>
    cases h
    rfl

theorem unlessRefused_eq_ok {refusal : Option DiskRefusal} {found : Except DiskFault α} {a : α}
    (h : unlessRefused refusal found = .ok a) : found = .ok a := by
  cases refusal with
  | some => cases h
  | none => exact mapError_eq_ok.mp h

theorem isOfDisk_of_unlessRefused {refusal : Option DiskRefusal} {found : Except DiskFault α}
    (h : unlessRefused refusal found = .error fault) : fault.isOfDisk = true := by
  cases refusal with
  | some refusal =>
    cases h
    exact refusal.isOfDisk
  | none => exact isOfDisk_of_mapError h

namespace Trouble

/-! ## Accesses that succeed -/

theorem makeFolders_eq_ok (h : trouble.makeFolders path disk = (.ok (), made)) :
    disk.makeFolders true path = (.ok (), made) := by
  rw [makeFolders] at h
  split at h
  · cases h
  · generalize disk.makeFolders true path = found at h ⊢
    obtain ⟨_ | _, last⟩ := found <;> cases h
    rfl

theorem putBytes_eq_ok (h : trouble.putBytes path bytes disk = (.ok (), after)) :
    disk.putBytes path bytes = .ok after := by
  rw [putBytes] at h
  cases hwriting : trouble.writing with
  | some stop =>
    rw [hwriting] at h
    dsimp only at h
    split at h <;> cases h
  | none =>
    rw [hwriting] at h
    dsimp only at h
    split at h
    · rename_i hput
      cases h
      exact unlessRefused_eq_ok hput
    · cases h

theorem replaceFile_eq_ok (h : trouble.replaceFile source target disk = .ok after) :
    disk.replaceFile source target = .ok after := unlessRefused_eq_ok h

theorem removeFile_eq_ok (h : trouble.removeFile path disk = .ok after) :
    disk.removeFile path = .ok after := unlessRefused_eq_ok h

/-! ## Accesses that fail -/

/-- The folders that were made are those of a first part of the way. -/
theorem exists_makeFolders_eq (trouble : Trouble) (path : DiskPath) (disk : DiskEntry) :
    ∃ front rest, path = front ++ rest ∧
      (trouble.makeFolders path disk).2 = (disk.makeFolders true front).2 := by
  rw [makeFolders]
  split
  · rename_i n _ _
    exact ⟨path.take n, path.drop n, (List.take_append_drop n path).symm, rfl⟩
  · exact ⟨path, [], (List.append_nil path).symm, rfl⟩

theorem isOfDisk_of_makeFolders (h : trouble.makeFolders path disk = (.error fault, made)) :
    fault.isOfDisk = true := by
  rw [makeFolders] at h
  split at h
  · rename_i refusal _
    cases h
    exact refusal.isOfDisk
  · exact isOfDisk_of_mapError (congrArg Prod.fst h)

/-- The bytes that were put, if any, are the first of those that were to be. -/
theorem putBytes_eq_error (h : trouble.putBytes path bytes disk = (.error fault, after)) :
    fault.isOfDisk = true ∧
      (after = disk ∨ ∃ part, part <+: bytes ∧ disk.putBytes path part = .ok after) := by
  rw [putBytes] at h
  cases hwriting : trouble.writing with
  | some stop =>
    obtain ⟨n, refusal⟩ := stop
    rw [hwriting] at h
    dsimp only at h
    split at h
    · rename_i hput
      cases h
      exact ⟨refusal.isOfDisk, .inr ⟨_, List.take_prefix n bytes, unlessRefused_eq_ok hput⟩⟩
    · rename_i hput
      cases h
      exact ⟨isOfDisk_of_unlessRefused hput, .inl rfl⟩
  | none =>
    rw [hwriting] at h
    dsimp only at h
    split at h
    · cases h
    · rename_i hput
      cases h
      exact ⟨isOfDisk_of_unlessRefused hput, .inl rfl⟩

theorem isOfDisk_of_replaceFile (h : trouble.replaceFile source target disk = .error fault) :
    fault.isOfDisk = true := isOfDisk_of_unlessRefused h

theorem isOfDisk_of_removeFile (h : trouble.removeFile path disk = .error fault) :
    fault.isOfDisk = true := isOfDisk_of_unlessRefused h

/-! ## Without trouble -/

theorem makeFolders_none_of_ok (h : disk.makeFolders true path = (.ok (), made)) :
    ({} : Trouble).makeFolders path disk = (.ok (), made) := by
  rw [makeFolders, h]
  rfl

theorem putBytes_none_of_ok (h : disk.putBytes path bytes = .ok after) :
    ({} : Trouble).putBytes path bytes disk = (.ok (), after) := by
  rw [putBytes]
  dsimp only
  rw [h]
  rfl

theorem putBytes_none_of_error {cause : DiskFault} (h : disk.putBytes path bytes = .error cause) :
    ({} : Trouble).putBytes path bytes disk = (.error (.disk cause), disk) := by
  rw [putBytes]
  dsimp only
  rw [h]
  rfl

theorem replaceFile_none_of_ok (h : disk.replaceFile source target = .ok after) :
    ({} : Trouble).replaceFile source target disk = .ok after := by
  rw [replaceFile, h]
  rfl

end Trouble

/-- Cleaning up reports a fault, its own or the one before, and removes the draft or nothing. -/
theorem Backing.exists_cleanUp_eq (trouble : Trouble) (draft : DiskPath) (fault : StoreFault)
    (disk : DiskEntry) :
    ∃ found after, cleanUp trouble draft fault disk = (.error found, after) ∧
      (fault.isOfDisk = true → found.isOfDisk = true) ∧
      (after = disk ∨ disk.removeFile draft = .ok after) := by
  rw [cleanUp]
  split
  · split
    · rename_i after hremoved
      exact ⟨fault, after, rfl, id, .inr (Trouble.removeFile_eq_ok hremoved)⟩
    · rename_i found hrefused
      exact ⟨found, disk, rfl, fun _ => Trouble.isOfDisk_of_removeFile hrefused, .inl rfl⟩
  · exact ⟨fault, disk, rfl, id, .inl rfl⟩

end VirtualShell
