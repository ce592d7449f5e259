import VirtualShell.Proofs.FileSystem.WriteThrough
import VirtualShell.Proofs.Store.FolderTexts
import VirtualShell.Proofs.Store.Way
/-
  A store that has taken one text takes every other.

  Whether a store takes a text under a key does not depend on the text, as long as it has a form in
  bytes: in a folder it depends on whether the folder is there or can be made, on the length of the
  names and on whether a folder stands in the place of a file, and a write that succeeds changes
  nothing of that. So where one write has succeeded, no later write of a volume fails.
-/

namespace VirtualShell

namespace Backing

open DiskEntry

variable {path : DiskPath} {place : List Text} {entries : Entries DiskEntry}
  {disk made : DiskEntry} {key data name : Text} {bytes : List UInt8}

/-- A folder, there or to be made, with room for the text under the key and for its draft. -/
structure HasRoom (path : DiskPath) (name : Text) (place : List Text)
    (entries : Entries DiskEntry) (disk made : DiskEntry) : Prop where
  isMade : disk.makeFolders true path = (.ok (), made)
  folder : made.IsFolderOf path place entries
  nodup : (Entries.keys entries).Nodup
  fits : path.Fits (draftName name)
  draft : ∀ below, Entries.get? (draftName name) entries ≠ some (.folder below)
  text : ∀ below, Entries.get? (textName name) entries ≠ some (.folder below)

/-- Where there is room a write succeeds, and there is room still. -/
theorem HasRoom.writeToFolder (h : HasRoom path name place entries disk made) (hkey : key.IsStep)
    (hname : FileName.canonical? key = some name) (hbytes : data.utf8? = some bytes) :
    ∃ after, writeToFolder {} path key data disk = (.ok (), after) ∧
      HasRoom path name place (putEntries name bytes entries) after after := by
  obtain ⟨after, hput, hafter⟩ := putByWay_of_isFolderOf h.folder (isPlain_draftName name)
    (isPlain_textName name) (textName_ne_draftName name name) h.fits (fits_text h.fits)
    h.draft h.text bytes
  have hget (x : Text) := get?_putEntries h.nodup name x bytes
  refine ⟨after, ?_, hafter.makeFolders, hafter, Entries.nodup_keys_erase _
    (Entries.nodup_keys_put _ _ (Entries.nodup_keys_put _ _ h.nodup)), h.fits,
    fun below => ?_, fun below => ?_⟩
  · rw [Backing.writeToFolder, Trouble.makeFolders_none_of_ok h.isMade,
      draftPath?_of_isStep path hkey, textPath?_of_isStep path hkey, hname]
    dsimp only
    rw [putText, hbytes]
    exact hput
  · rw [hget, if_neg (textName_ne_draftName name name).symm, if_pos rfl]
    simp
  · rw [hget, if_pos rfl]
    simp

end Backing

namespace Store

variable {store : Store} {key data : Text}

/-- A store that refuses no write and has room for the text under the key, if it is in a folder. -/
structure IsReady (store : Store) (key : Text) : Prop where
  refuses (attempt : Nat) : store.refuses attempt = false
  backing : match store.backing with
    | .nowhere _ => False
    | .memory _ => True
    | .folder path disk => ∃ name place entries made, FileName.canonical? key = some name ∧
      Backing.HasRoom path name place entries disk made

theorem write_of_refuses (h : ∀ attempt, store.refuses attempt = false) (key data : Text) :
    store.write key data = ((store.backing.write key data).1,
      { store with backing := (store.backing.write key data).2, writes := store.writes + 1 }) := by
  rw [Store.write]
  exact if_neg (by simp [h])

/-- A store that is ready takes every text that has a form in bytes, and is ready still. -/
theorem IsReady.write (h : store.IsReady key) (hkey : key.IsStep) (hdata : data.IsEncodable) :
    (store.write key data).1 = .ok () ∧ (store.write key data).2.IsReady key := by
  have hbacking := h.backing
  rw [write_of_refuses h.refuses]
  cases hb : store.backing with
  | nowhere fault =>
    rw [hb] at hbacking
    exact absurd hbacking id
  | memory texts => exact ⟨rfl, h.refuses, trivial⟩
  | folder path disk =>
    rw [hb] at hbacking
    obtain ⟨name, place, entries, made, hname, hroom⟩ := hbacking
    obtain ⟨bytes, hbytes⟩ := Text.exists_utf8?_of_isEncodable hdata
    obtain ⟨after, hwrite, hroom'⟩ := hroom.writeToFolder hkey hname hbytes
    rw [Backing.write, Backing.writeIn, hwrite]
    exact ⟨rfl, h.refuses, name, place, _, after, hname, hroom'⟩

/-- The disk that a store is on, if it is on one, has no name twice in a folder. -/
def HasDistinctNames (store : Store) : Prop :=
  ∀ path disk, store.backing = .folder path disk → disk.HasDistinctNames

end Store

namespace Volume

variable {mayReplace : Bool} {v w : Volume}

/-- A call leaves the store as it is, or writes the text of the volume that it leaves. -/
theorem store_settle (verdict : Verdict) (v : Volume) :
    (settle verdict v).2.key = v.key ∧ ((settle verdict v).2.store = v.store ∨
      (settle verdict v).2.store = (v.store.write v.key (settle verdict v).2.toJson).2) := by
  by_cases h : verdict.IsWritten
  · have hs := isSaved_settle h v
    exact ⟨hs.key, .inr hs.store⟩
  · have hq := isQuiet_settle h v
    exact ⟨hq.key, .inl hq.store⟩

theorem Step.store (h : Step mayReplace v w) :
    w.key = v.key ∧ (w.store = v.store ∨ w.store = (v.store.write v.key w.toJson).2) := by
  cases h with
  | change now m => exact store_settle (m.verdict now v.root) v
  | reset now => exact ⟨rfl, .inr rfl⟩
  | corrupt attempts source now draws =>
    rw [corruptWithin_eq]
    split
    · exact ⟨rfl, .inl rfl⟩
    · exact ⟨rfl, .inr rfl⟩

theorem Run.key (h : Run mayReplace v w) : w.key = v.key := by
  induction h with
  | refl => rfl
  | tail _ hstep ih => exact hstep.store.1.trans ih

end Volume

end VirtualShell
