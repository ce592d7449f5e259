import VirtualShell.Proofs.Session.Reachable
import VirtualShell.Proofs.Store.ReadBack
import VirtualShell.Proofs.Tree.RoundTrip
/-
  A session comes back.

  Every reachable tree is consistent, and so its snapshot passes whatever the decoder asks for.
  What is stored of a volume is therefore never dropped for the starting tree: read as a text or
  opened from a store, at whatever time, it gives the same tree with the same mark for damage.
-/

namespace VirtualShell

namespace Volume

/-- Two volumes with the same tree and the same mark for damage, and so with the same text. -/
structure IsSame (v w : Volume) : Prop where
  root : v.root = w.root
  corrupted : v.corrupted = w.corrupted
  toJson : v.toJson = w.toJson

theorem isSame_of_snapshot_eq {v w : Volume} (h : v.snapshot = w.snapshot) : v.IsSame w := by
  have hroot : v.snapshot.root = w.snapshot.root := by rw [h]
  have hcorrupted : v.snapshot.corrupted = w.snapshot.corrupted := by rw [h]
  exact ⟨hroot, hcorrupted, by rw [toJson, h, toJson]⟩

variable {v : Volume}

/-- The text of a volume gives the volume. -/
theorem ofText_toJson (hc : v.root.IsConsistent) (hl : v.root.IsLegible) (now : Float)
    (store : Store) (key : Text) :
    ofText now v.toJson store key = .ok ⟨v.root, v.corrupted, none, store, key⟩ := by
  have hread : Snapshot.read now v.toJson = .ok v.snapshot :=
    Snapshot.read_write now (s := v.snapshot) hc hl
  rw [ofText, hread]
  rfl

/-- A store in which the text of a volume is found gives the merged tree with the same mark. -/
theorem load_of_read_merged (hc : v.root.IsConsistent)
    (hsize : ∀ n ∈ v.root.walk, n.size < 10 ^ Text.digitLimit) (now : Float)
    {store : Store} {key : Text} (h : store.read key = .ok (some v.toJson)) :
    load now store key = .ok ⟨v.root.merged, v.corrupted, none, store, key⟩ := by
  have hread : Snapshot.read now v.toJson = .ok ⟨v.root.merged, v.corrupted⟩ :=
    Snapshot.read_write_merged now (s := v.snapshot) hc hsize
  rw [load, h]
  dsimp only
  rw [hread]

/-- A store in which the text of a volume is found gives the volume. -/
theorem load_of_read (hc : v.root.IsConsistent) (hl : v.root.IsLegible) (now : Float)
    {store : Store} {key : Text} (h : store.read key = .ok (some v.toJson)) :
    load now store key = .ok ⟨v.root, v.corrupted, none, store, key⟩ := by
  rw [load_of_read_merged hc hl.size now h, hl.merged_eq_self hc]

end Volume

namespace Session

variable {ω : Type}

/-- Whatever is reached comes back, from its text and from any store that its text has been
written to, if no surrogate pair stands in it in two halves. -/
theorem restored_of_reachable {s : Session ω} (h : Reachable s)
    (hl : s.volume.root.IsLegible) :
    (∀ (now : Float) (store : Store) (key : Text), ∃ v,
      Volume.ofText now s.volume.toJson store key = .ok v ∧ v.IsSame s.volume) ∧
    ∀ (now : Float) (backing : Backing) (store : Store) (key : Text),
      backing.write key s.volume.toJson = (.ok (), store.backing) →
      ∃ v, Volume.load now store key = .ok v ∧ v.IsSame s.volume := by
  obtain ⟨first, hopened, hsteps⟩ := h
  have hc := Volume.Run.isConsistent hsteps.leads (isConsistent_of_isOpened hopened)
  constructor
  · intro now store key
    exact ⟨_, Volume.ofText_toJson hc hl now store key, Volume.isSame_of_snapshot_eq rfl⟩
  · intro now backing store key hwrite
    have hread := Backing.read_of_write s.volume.isVisible_toJson hwrite
    exact ⟨_, Volume.load_of_read hc hl now hread, Volume.isSame_of_snapshot_eq rfl⟩

/-- A file with half a surrogate pair in its name and one past the first plane in its content. -/
theorem restored_after_creation :
    let first := start ⟨Node.defaultTree 0, false, none, Store.empty, Volume.defaultKey⟩ {}
      History.usualLimit 0 ()
    let s :=
      (change (.createFile "/Downloads" [CodePoint.ofNat 0xDC00] [CodePoint.ofNat 0x1F600]) first).2
    let store : Store := ⟨.memory [(Volume.defaultKey, s.volume.toJson)], 0, fun _ => false⟩
    Reachable s ∧ s.volume.root.IsLegible ∧
      (∃ v, Volume.ofText 1 s.volume.toJson Store.empty Volume.defaultKey = .ok v ∧
        v.IsSame s.volume) ∧
      ∃ v, Volume.load 1 store Volume.defaultKey = .ok v ∧ v.IsSame s.volume := by
  intro first s store
  have hload : Volume.load 0 Store.empty Volume.defaultKey = .ok first.volume := rfl
  have h : Reachable s := ⟨first, .load hload, Relation.ReflTransGen.single (.change _ _)⟩
  have hl : s.volume.root.IsLegible := ⟨by decide +kernel, by decide +kernel, by decide +kernel⟩
  obtain ⟨htext, hstore⟩ := restored_of_reachable h hl
  exact ⟨h, hl, htext 1 Store.empty Volume.defaultKey, hstore 1 (.memory []) store _ rfl⟩

end Session

end VirtualShell
