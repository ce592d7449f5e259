import VirtualShell.Proofs.FileSystem.Volume
import VirtualShell.Proofs.Tree.RoundTrip
/-
  Opening whatever is stored.

  The decoder looks at every value of a text that nobody has checked, and most of what it can meet
  there is a fault that opening forgives: the text is dropped for the starting tree, or reported
  as no snapshot to whoever gave it. One is not, an integer given as a time that is beyond all
  floating-point numbers: a text can be opened exactly if the decoder does not come upon one.
  `HasVastTime` says where in a value such an integer has to stand for that.
-/

namespace VirtualShell

namespace Snapshot

/-- A stored node with an integer beyond all floating-point numbers as its time, or with a node
like that among those stored below it. -/
inductive HasVastTime : Json → Prop
  | self {fields : List (Text × Json)} {n : Int} :
    Entries.get? "mtime" fields = some (.number (.integer n)) → Binary64.overflow ≤ n.natAbs →
    HasVastTime (.object fields)
  | child {fields children : List (Text × Json)} {p : Text × Json} :
    Entries.get? "children" fields = some (.object children) → p ∈ children → HasVastTime p.2 →
    HasVastTime (.object fields)

theorem require_ne_timeTooLarge (field : Text) (fields : Entries Json) :
    require field fields ≠ .error .timeTooLarge := by
  rw [require]
  split <;> simp

theorem decodeFile_ne_timeTooLarge (mtime : Float) (fields : Entries Json) :
    decodeFile mtime fields ≠ .error .timeTooLarge := by
  intro h
  rw [decodeFile] at h
  split at h
  · rcases bind_eq_error.mp h with h | ⟨name, -, h⟩
    · exact require_ne_timeTooLarge _ _ h
    rcases bind_eq_error.mp h with h | ⟨path, -, h⟩
    · exact require_ne_timeTooLarge _ _ h
    split at h <;> cases h
  · cases h

theorem exists_of_decodeTime_eq_error {now : Float} {v : Json}
    (h : decodeTime now v = .error .timeTooLarge) :
    ∃ n, v = .number (.integer n) ∧ Binary64.overflow ≤ n.natAbs := by
  cases v with
  | number number =>
    cases number with
    | integer n =>
      simp only [decodeTime, Number.toFloat?] at h
      cases hn : Binary64.ofInt? n with
      | none => exact ⟨n, rfl, Binary64.ofInt?_eq_none_iff.mp hn⟩
      | some x => rw [hn] at h; cases h
    | real x => cases h
  | text t =>
    rw [decodeTime] at h
    split at h <;> cases h
  | _ => cases h

theorem exists_of_decodeEach_eq_error {now : Float} {fields : List (Text × Json)}
    {fault : SnapshotFault} (h : decodeEach now fields = .error fault) :
    ∃ p ∈ fields, decodeNode now p.2 = .error fault := by
  induction fields with
  | nil => cases h
  | cons p rest ih =>
    rw [decodeEach] at h
    rcases bind_eq_error.mp h with h | ⟨child, -, h⟩
    · exact ⟨p, List.mem_cons_self, h⟩
    rcases bind_eq_error.mp h with h | ⟨more, -, h⟩
    · obtain ⟨q, hq, h⟩ := ih h
      exact ⟨q, List.mem_cons_of_mem _ hq, h⟩
    · cases h

/-- The induction is on the value, with its nodes and its mappings of nodes shown at once. -/
theorem hasVastTime_of_decode {now : Float} {v : Json} (hv : v.IsDistinct) :
    (decodeNode now v = .error .timeTooLarge → HasVastTime v) ∧
    (decodeMapping now v = .error .timeTooLarge →
      ∃ children, v = .object children ∧ ∃ p ∈ children, HasVastTime p.2) := by
  induction hv with
  | @object fields _ _ ih =>
    refine ⟨fun h => ?_, fun h => ?_⟩
    · rw [decodeNode] at h
      rcases bind_eq_error.mp h with h | ⟨type, -, h⟩
      · exact absurd h (require_ne_timeTooLarge _ _)
      rcases bind_eq_error.mp h with h | ⟨mtime, -, h⟩
      · obtain ⟨n, hn, hvast⟩ := exists_of_decodeTime_eq_error h
        refine .self ?_ hvast
        rw [Json.fieldOr] at hn
        cases hfield : Entries.get? "mtime" fields with
        | none => rw [hfield] at hn; cases hn
        | some w => rw [hfield, Option.getD_some] at hn; rw [hn]
      split at h
      · split at h
        · exact absurd h (decodeFile_ne_timeTooLarge _ _)
        split at h
        · rcases bind_eq_error.mp h with h | ⟨children, -, h⟩
          · rw [decodeChildren_eq] at h
            split at h
            · cases h
            · rename_i w hw
              obtain ⟨children, rfl, p, hp, hvast⟩ :=
                (ih _ (Entries.mem_of_get? hw)).2 h
              exact .child hw hp hvast
          rcases bind_eq_error.mp h with h | ⟨name, -, h⟩
          · exact absurd h (require_ne_timeTooLarge _ _)
          rcases bind_eq_error.mp h with h | ⟨path, -, h⟩
          · exact absurd h (require_ne_timeTooLarge _ _)
          · cases h
        · cases h
      · cases h
    · obtain ⟨p, hp, h⟩ := exists_of_decodeEach_eq_error h
      exact ⟨fields, rfl, p, hp, (ih p hp).1 h⟩
  | _ => simp [decodeNode, decodeMapping]

/-- A node that has a type fails at once for such a time of its own. -/
theorem decodeNode_of_vast {now : Float} {fields : List (Text × Json)} {type : Json} {n : Int}
    (htype : Entries.get? "type" fields = some type)
    (htime : Entries.get? "mtime" fields = some (.number (.integer n)))
    (hn : Binary64.overflow ≤ n.natAbs) :
    decodeNode now (.object fields) = .error .timeTooLarge := by
  have hdecoded : decodeTime now (Json.fieldOr .null "mtime" fields) = .error .timeTooLarge := by
    rw [Json.fieldOr, htime, Option.getD_some, decodeTime, Number.toFloat?,
      Binary64.ofInt?_eq_none_iff.mpr hn]
  rw [decodeNode, require, htype]
  show (decodeTime now (Json.fieldOr .null "mtime" fields) >>= _) = _
  rw [hdecoded]
  rfl

/-- A fault of the root is the fault of the text. -/
theorem read_of_decodeNode {now : Float} {t : Text} {fields : List (Text × Json)} {root : Json}
    {fault : SnapshotFault} (hvalue : Json.read t = .ok (.object fields))
    (hroot : Entries.get? "root" fields = some root) (h : decodeNode now root = .error fault) :
    read now t = .error fault := by
  rw [read, hvalue]
  dsimp only
  rw [decode, require, hroot]
  show (decodeNode now root >>= _) = _
  rw [h]
  rfl

/-- A text that is JSON and stores, as its root, a node with a time beyond all numbers. -/
def IsVast (t : Text) : Prop :=
  ∃ fields root, Json.read t = .ok (.object fields) ∧ Entries.get? "root" fields = some root ∧
    HasVastTime root

theorem isVast_of_read {now : Float} {t : Text} (h : read now t = .error .timeTooLarge) :
    IsVast t := by
  rw [read] at h
  split at h
  · cases h
  rename_i v hv
  cases Json.isDistinct_of_read hv with
  | @object fields _ hfields =>
    rw [decode] at h
    rcases bind_eq_error.mp h with h | ⟨root, hroot, h⟩
    · exact absurd h (require_ne_timeTooLarge _ _)
    rw [require] at hroot
    split at hroot
    · rename_i w hw
      cases hroot
      rcases bind_eq_error.mp h with h | ⟨draft, -, h⟩
      · exact ⟨fields, root, hv, hw,
          (hasVastTime_of_decode (hfields _ (Entries.mem_of_get? hw))).1 h⟩
      · split at h <;> cases h
    · cases hroot
  | _ => cases h

end Snapshot

namespace Volume

variable {now : Float} {store : Store} {key t : Text}

theorem load_of_snapshot {s : Snapshot} (hread : store.read key = .ok (some t))
    (h : Snapshot.read now t = .ok s) :
    load now store key = .ok ⟨s.root, s.corrupted, none, store, key⟩ := by
  rw [load, hread]
  dsimp only
  rw [h]

theorem load_of_fault {fault : SnapshotFault} (hread : store.read key = .ok (some t))
    (h : Snapshot.read now t = .error fault) :
    load now store key = if isForgiven fault
      then .ok ⟨Node.defaultTree now, false, none, store, key⟩
      else .error (.snapshot fault) := by
  rw [load, hread]
  dsimp only
  rw [h]

theorem ofText_of_snapshot {s : Snapshot} (h : Snapshot.read now t = .ok s) (store : Store)
    (key : Text) : ofText now t store key = .ok ⟨s.root, s.corrupted, none, store, key⟩ := by
  rw [ofText, h]
  rfl

theorem ofText_of_fault {fault : SnapshotFault} (h : Snapshot.read now t = .error fault)
    (store : Store) (key : Text) : ofText now t store key = .error fault := by
  rw [ofText, h]
  rfl

/-- Of the faults of a text, opening forgives all but that of a time beyond all numbers. -/
theorem isForgiven_of_ne {fault : SnapshotFault} (h : fault ≠ .timeTooLarge) :
    isForgiven fault = true := by
  cases fault with
  | timeTooLarge => exact absurd rfl h
  | _ => rfl

/-- A text is opened unless a time beyond all numbers is what is wrong with it. Either a consistent
tree with a mark for damage is read from it, and that is what opening gives; or it is dropped for
the starting tree without the mark, and whoever asks for the text itself learns why. Where there is
such a time, in the root or below it, and the decoder comes upon it, both fail. -/
theorem opens_unless_time_too_large (now : Float) (hread : store.read key = .ok (some t)) :
    (Snapshot.read now t ≠ .error .timeTooLarge →
      (∃ s : Snapshot, s.root.IsConsistent ∧ Snapshot.read now t = .ok s ∧
        load now store key = .ok ⟨s.root, s.corrupted, none, store, key⟩ ∧
        ∀ other otherKey, ofText now t other otherKey =
          .ok ⟨s.root, s.corrupted, none, other, otherKey⟩) ∨
      ∃ fault, isForgiven fault = true ∧ Snapshot.read now t = .error fault ∧
        load now store key = .ok ⟨Node.defaultTree now, false, none, store, key⟩ ∧
        ∀ other otherKey, ofText now t other otherKey = .error fault) ∧
    (Snapshot.read now t = .error .timeTooLarge →
      Snapshot.IsVast t ∧ load now store key = .error (.snapshot .timeTooLarge) ∧
        ∀ other otherKey, ofText now t other otherKey = .error .timeTooLarge) := by
  refine ⟨fun htime => ?_, fun htime => ⟨Snapshot.isVast_of_read htime, ?_, ofText_of_fault htime⟩⟩
  · cases hsnapshot : Snapshot.read now t with
    | ok s =>
      have hconsistent := Snapshot.isConsistent_of_read hsnapshot
      exact .inl
        ⟨s, hconsistent, rfl, load_of_snapshot hread hsnapshot, ofText_of_snapshot hsnapshot⟩
    | error fault =>
      have hforgiven : isForgiven fault = true :=
        isForgiven_of_ne fun hfault => htime (by rw [hsnapshot, hfault])
      have hload := load_of_fault hread hsnapshot
      rw [if_pos hforgiven] at hload
      exact .inr ⟨fault, hforgiven, rfl, hload, ofText_of_fault hsnapshot⟩
  · rw [load_of_fault hread htime]
    exact if_neg Bool.false_ne_true

/-- A time of three hundred and nine digits still has a number. The text is dropped, but only
because the node has no type. -/
theorem opens_at_long_time :
    let node : List (Text × Json) := [("mtime", .number (.integer (10 ^ 308)))]
    let t := (Json.object [("root", .object node)]).write
    let store : Store := ⟨.memory [(defaultKey, t)], 0, fun _ => false⟩
    store.read defaultKey = .ok (some t) ∧ Snapshot.read 0 t ≠ .error .timeTooLarge ∧
      load 0 store defaultKey = .ok ⟨Node.defaultTree 0, false, none, store, defaultKey⟩ := by
  intro node t store
  have hdigits : (Text.ofNat (10 ^ 308 : Int).natAbs).length ≤ Text.digitLimit := by decide +kernel
  have hnode : (Json.object node).IsReadable :=
    Snapshot.isReadable_object ["mtime"] rfl (by decide) (by decide)
      (List.forall_mem_singleton.mpr (.number hdigits))
  have hvalue : Json.read t = .ok (.object [("root", .object node)]) :=
    Json.read_write (Snapshot.isReadable_object ["root"] rfl (by decide) (by decide)
      (List.forall_mem_singleton.mpr hnode))
  have htime : Snapshot.read 0 t = .error (.missing "type") := by
    rw [Snapshot.read, hvalue]
    rfl
  have hne : Snapshot.read 0 t ≠ .error .timeTooLarge := by
    rw [htime]
    simp
  have hread : store.read defaultKey = .ok (some t) := rfl
  refine ⟨hread, hne, ?_⟩
  obtain ⟨s, -, hs, -⟩ | ⟨fault, -, -, hload, -⟩ := (opens_unless_time_too_large 0 hread).1 hne
  · rw [htime] at hs
    cases hs
  · exact hload

/-- The tree with nothing in it cannot be opened if its time has one digit more. -/
theorem not_opens_at_vast_time :
    let node : List (Text × Json) :=
      [("type", .text "directory"), ("name", .text []), ("path", .text "/"),
        ("mtime", .number (.integer (10 ^ 309))), ("children", .object [])]
    let t := (Json.object [("root", .object node)]).write
    let store : Store := ⟨.memory [(defaultKey, t)], 0, fun _ => false⟩
    store.read defaultKey = .ok (some t) ∧
      (∀ now, load now store defaultKey = .error (.snapshot .timeTooLarge)) ∧
      ∀ now, ofText now t store defaultKey = .error .timeTooLarge := by
  intro node t store
  have hdigits : (Text.ofNat (10 ^ 309 : Int).natAbs).length ≤ Text.digitLimit := by decide +kernel
  have htype : Text.IsUnpaired "directory" := Text.isUnpaired_of_forall_lt (by decide)
  have hpath : Text.IsUnpaired "/" := Text.isUnpaired_of_forall_lt (by decide)
  have hnode : (Json.object node).IsReadable := by
    refine Snapshot.isReadable_object ["type", "name", "path", "mtime", "children"] rfl (by decide)
      (by decide) ?_
    simp only [node, List.forall_mem_cons]
    exact ⟨.text htype, .text List.isChain_nil, .text hpath, .number hdigits,
      .object List.nodup_nil (by simp) (by simp), by simp⟩
  have hvalue : Json.read t = .ok (.object [("root", .object node)]) :=
    Json.read_write (Snapshot.isReadable_object ["root"] rfl (by decide) (by decide)
      (List.forall_mem_singleton.mpr hnode))
  have hnumber : Binary64.overflow ≤ (10 ^ 309 : Int).natAbs := by decide +kernel
  have hread : ∀ now, Snapshot.read now t = .error .timeTooLarge := fun now =>
    Snapshot.read_of_decodeNode hvalue rfl (Snapshot.decodeNode_of_vast rfl rfl hnumber)
  have hstored : store.read defaultKey = .ok (some t) := rfl
  refine ⟨hstored, fun now => ?_, fun now => ofText_of_fault (hread now) store defaultKey⟩
  rw [load_of_fault hstored (hread now)]
  exact if_neg Bool.false_ne_true

end Volume

end VirtualShell
