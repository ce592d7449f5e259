import VirtualShell.CommandLine.Program
import VirtualShell.Proofs.FileSystem.Opening
import VirtualShell.Proofs.Store.Calls
import VirtualShell.Proofs.Store.Way
/-
  Opening whatever a folder holds.

  What is read under a key is nothing if no file can be reached, however it is that none can, and
  the text of the file if its bytes are the form of one; then opening gives what the text gives, and
  the starting tree if it is none. Bytes that are the form of no text are neither: they are a fault
  of the store, and opening does not forgive it.
-/

namespace VirtualShell.Volume

variable {path final : DiskPath} {disk : DiskEntry} {key t : Text} {bytes : List UInt8} {now : Float}

/-! ## What is read -/

theorem read_inFolder_of_no_file (hfinal : Backing.textPath? path key = .ok final)
    (hnone : ∀ bytes, disk.find? final ≠ some (.file bytes)) :
    (Store.inFolder path disk).read key = .ok none :=
  Backing.read_of_bytesAt hfinal fun bytes hbytes =>
    hnone bytes (DiskEntry.bytesAt_eq_ok_iff_find?.mp hbytes)

theorem read_inFolder_of_utf8 (hfinal : Backing.textPath? path key = .ok final)
    (hfile : disk.find? final = some (.file bytes)) (ht : t.utf8? = some bytes) :
    (Store.inFolder path disk).read key = .ok (some t.withLineFeeds) := by
  show Backing.read key (.folder path disk) = _
  rw [Backing.read, hfinal]
  dsimp only
  rw [DiskEntry.bytesAt_eq_ok_iff_find?.mpr hfile]
  dsimp only
  rw [Text.ofUtf8?_of_utf8? ht]

theorem read_inFolder_of_no_utf8 (hfinal : Backing.textPath? path key = .ok final)
    (hfile : disk.find? final = some (.file bytes)) (ht : ∀ t : Text, t.utf8? ≠ some bytes) :
    (Store.inFolder path disk).read key = .error .notUtf8 := by
  have hnone : Text.ofUtf8? bytes = none := by
    rw [Option.eq_none_iff_forall_ne_some]
    exact fun t hread => ht t (Text.ofUtf8?_eq_some_iff.mp hread)
  show Backing.read key (.folder path disk) = _
  rw [Backing.read, hfinal]
  dsimp only
  rw [DiskEntry.bytesAt_eq_ok_iff_find?.mpr hfile]
  dsimp only
  rw [hnone]

/-! ## What is opened -/

/-- A file that cannot be reached is no text, and the bytes of one that can be are the form of a
text or of none. Only in the last case does reading fail, and then so does opening; in the others
opening gives what is stored, or the starting tree. -/
theorem opens_unless_no_utf8 (now : Float) (hfinal : Backing.textPath? path key = .ok final) :
    let store := Store.inFolder path disk
    let fresh : Volume := ⟨Node.defaultTree now, false, none, store, key⟩
    ((∀ bytes, disk.find? final ≠ some (.file bytes)) →
      store.read key = .ok none ∧ load now store key = .ok fresh) ∧
    ∀ bytes, disk.find? final = some (.file bytes) →
      (∀ t : Text, t.utf8? = some bytes → store.read key = .ok (some t.withLineFeeds) ∧
        (Snapshot.read now t.withLineFeeds ≠ .error .timeTooLarge →
          (∃ s : Snapshot, s.root.IsConsistent ∧ Snapshot.read now t.withLineFeeds = .ok s ∧
            load now store key = .ok ⟨s.root, s.corrupted, none, store, key⟩) ∨
          ∃ fault, Snapshot.read now t.withLineFeeds = .error fault ∧
            load now store key = .ok fresh)) ∧
      ((∀ t : Text, t.utf8? ≠ some bytes) → store.read key = .error .notUtf8 ∧
        load now store key = .error (.store .notUtf8)) := by
  intro store fresh
  refine ⟨fun hnone => ?_, fun bytes hfile => ⟨fun t ht => ?_, fun ht => ?_⟩⟩
  · have hread : store.read key = .ok none := read_inFolder_of_no_file hfinal hnone
    refine ⟨hread, ?_⟩
    rw [load, hread]
  · have hread : store.read key = .ok (some t.withLineFeeds) :=
      read_inFolder_of_utf8 hfinal hfile ht
    refine ⟨hread, fun htime => ?_⟩
    cases hsnapshot : Snapshot.read now t.withLineFeeds with
    | ok s =>
      exact .inl ⟨s, Snapshot.isConsistent_of_read hsnapshot, rfl, load_of_snapshot hread hsnapshot⟩
    | error fault =>
      have hload := load_of_fault hread hsnapshot
      rw [if_pos (isForgiven_of_ne fun hfault => htime (by rw [hsnapshot, hfault]))] at hload
      exact .inr ⟨fault, rfl, hload⟩
  · have hread : store.read key = .error .notUtf8 := read_inFolder_of_no_utf8 hfinal hfile ht
    refine ⟨hread, ?_⟩
    rw [load, hread]

/-- A file in the place of the folder, and in a folder a file with a text that is no snapshot: both
give the starting tree. -/
theorem opens_without_snapshot :
    let path : DiskPath := ["state"]
    let final : DiskPath := ["state", "treeshell-filesystem.json"]
    let occupied : DiskEntry := .folder [("state", .file [0x7B])]
    let useless : DiskEntry :=
      .folder [("state", .folder [("treeshell-filesystem.json", .file [0x7B, 0x0D])])]
    let fresh (disk : DiskEntry) : Volume :=
      ⟨Node.defaultTree 0, false, none, Store.inFolder path disk, defaultKey⟩
    Backing.textPath? path defaultKey = .ok final ∧
      (∀ bytes, occupied.find? final ≠ some (.file bytes)) ∧
      useless.find? final = some (.file [0x7B, 0x0D]) ∧
      Text.utf8? "\x7b\r" = some [0x7B, 0x0D] ∧
      Snapshot.read 0 "\x7b\n" ≠ .error .timeTooLarge ∧
      load 0 (Store.inFolder path occupied) defaultKey = .ok (fresh occupied) ∧
      load 0 (Store.inFolder path useless) defaultKey = .ok (fresh useless) := by
  intro path final occupied useless fresh
  have hfinal : Backing.textPath? path defaultKey = .ok final := rfl
  have hnone : ∀ bytes, occupied.find? final ≠ some (.file bytes) := fun bytes hfile => nomatch hfile
  have hfile : useless.find? final = some (.file [0x7B, 0x0D]) := rfl
  have hbytes : Text.utf8? "\x7b\r" = some [0x7B, 0x0D] := by decide
  have htime : Snapshot.read 0 "\x7b\n" = .error (.unreadable .malformed) := rfl
  have hne : Snapshot.read 0 "\x7b\n" ≠ .error .timeTooLarge := by
    rw [htime]
    simp
  obtain ⟨hoccupied, -⟩ := @opens_unless_no_utf8 path final occupied defaultKey 0 hfinal
  obtain ⟨-, huseless⟩ := @opens_unless_no_utf8 path final useless defaultKey 0 hfinal
  refine ⟨hfinal, hnone, hfile, hbytes, hne, (hoccupied hnone).2, ?_⟩
  obtain ⟨s, -, hs, -⟩ | ⟨fault, -, hload⟩ := ((huseless _ hfile).1 _ hbytes).2 hne
  · have hs : Snapshot.read 0 "\x7b\n" = .ok s := hs
    rw [htime] at hs
    cases hs
  · exact hload

/-- One byte that begins nothing in the file of the snapshot: it is not read as no text, the tree is
not opened, and the program ends before it begins. -/
theorem not_opens_at_stray_byte :
    let disk : DiskEntry :=
      .folder [("state", .folder [("treeshell-filesystem.json", .file [0xFF])])]
    let store := Store.inFolder ["state"] disk
    store.read defaultKey = .error .notUtf8 ∧
      (∀ now, load now store defaultKey = .error (.store .notUtf8)) ∧
      ∀ login now draws entries,
        Program.run ["--state-dir", "/state"] login disk now draws entries = ⟨1, [], disk⟩ := by
  intro disk store
  refine ⟨rfl, fun now => rfl, fun login now draws entries => rfl⟩

end VirtualShell.Volume
