import VirtualShell.Tree.Snapshot
import VirtualShell.Proofs.Tree.Draft
/-
  What is read from a snapshot is a consistent tree.

  The decoder works the sizes out anew and takes its keys from objects that have each key
  once, so the drafts it makes have what the check does not ask for.
-/

namespace VirtualShell.Snapshot

theorem isSized_decodeFile {mtime : Float} {fields : Entries Json} {d : Draft}
    (h : decodeFile mtime fields = .ok d) : d.IsSized := by
  rw [decodeFile] at h
  split at h
  · obtain ⟨name, -, h⟩ := bind_eq_ok.mp h
    obtain ⟨path, -, h⟩ := bind_eq_ok.mp h
    split at h
    · rename_i size hs
      cases h
      exact .file hs
    · cases h
  · cases h

theorem keys_decodeEach {now : Float} {fields : List (Text × Json)} {children : List (Text × Draft)}
    (h : decodeEach now fields = .ok children) :
    Entries.keys children = Entries.keys fields := by
  induction fields generalizing children with
  | nil =>
    cases h
    rfl
  | cons p rest ih =>
    rw [decodeEach] at h
    obtain ⟨child, -, h⟩ := bind_eq_ok.mp h
    obtain ⟨more, hm, h⟩ := bind_eq_ok.mp h
    cases h
    rw [Entries.keys_cons, Entries.keys_cons, ih hm]

theorem isSized_decodeEach {now : Float} {fields : List (Text × Json)}
    {children : List (Text × Draft)} (h : decodeEach now fields = .ok children)
    (hf : ∀ p ∈ fields, ∀ d, decodeNode now p.2 = .ok d → d.IsSized) :
    ∀ e ∈ children, e.2.IsSized := by
  induction fields generalizing children with
  | nil =>
    cases h
    simp
  | cons p rest ih =>
    rw [decodeEach] at h
    obtain ⟨child, hc, h⟩ := bind_eq_ok.mp h
    obtain ⟨more, hm, h⟩ := bind_eq_ok.mp h
    cases h
    intro e he
    rcases List.mem_cons.mp he with rfl | he
    · exact hf p List.mem_cons_self child hc
    · exact ih hm (fun q hq => hf q (List.mem_cons_of_mem _ hq)) e he

/-- The children are those under the first key of that name. -/
theorem decodeChildren_eq (now : Float) (fields : List (Text × Json)) :
    decodeChildren now fields = match Entries.get? "children" fields with
      | none => .error (.missing "children")
      | some v => decodeMapping now v := by
  induction fields with
  | nil => rfl
  | cons p rest ih =>
    rw [decodeChildren, Entries.get?]
    split
    · rfl
    · exact ih

theorem decodeChildren_eq_ok {now : Float} {fields : List (Text × Json)}
    {children : List (Text × Draft)} (h : decodeChildren now fields = .ok children) :
    ∃ p ∈ fields, decodeMapping now p.2 = .ok children := by
  rw [decodeChildren_eq] at h
  split at h
  · cases h
  · rename_i v hv
    exact ⟨_, Entries.mem_of_get? hv, h⟩

/-- The induction is on the value. A value is decoded as a node or, under the key of the
children, as a mapping, so both are shown at once. -/
theorem isSized_decode {now : Float} {v : Json} (hv : v.IsDistinct) :
    (∀ d, decodeNode now v = .ok d → d.IsSized) ∧
    (∀ children, decodeMapping now v = .ok children →
      (Entries.keys children).Nodup ∧ ∀ e ∈ children, e.2.IsSized) := by
  induction hv with
  | @object fields hd _ ih =>
    refine ⟨fun d h => ?_, fun children h => ?_⟩
    · rw [decodeNode] at h
      obtain ⟨type, -, h⟩ := bind_eq_ok.mp h
      obtain ⟨mtime, -, h⟩ := bind_eq_ok.mp h
      split at h
      · split at h
        · exact isSized_decodeFile h
        · split at h
          -- the mapping under the key of the children is a field, and so a smaller value
          · obtain ⟨children, hc, h⟩ := bind_eq_ok.mp h
            obtain ⟨name, -, h⟩ := bind_eq_ok.mp h
            obtain ⟨path, -, h⟩ := bind_eq_ok.mp h
            cases h
            obtain ⟨p, hp, hm⟩ := decodeChildren_eq_ok hc
            obtain ⟨hnodup, hsized⟩ := (ih p hp).2 children hm
            exact .directory hnodup hsized
          · cases h
      · cases h
    · rw [decodeMapping] at h
      rw [keys_decodeEach h]
      exact ⟨hd, isSized_decodeEach h fun p hp => (ih p hp).1⟩
  | _ => simp [decodeNode, decodeMapping]

theorem isConsistent_of_decode {now : Float} {v : Json} {s : Snapshot} (hv : v.IsDistinct)
    (h : decode now v = .ok s) : s.root.IsConsistent := by
  cases hv with
  | object _ hf =>
    rw [decode] at h
    obtain ⟨root, hr, h⟩ := bind_eq_ok.mp h
    obtain ⟨draft, hd, h⟩ := bind_eq_ok.mp h
    split at h
    · cases h
    · rename_i hc
      cases h
      rw [require] at hr
      split at hr
      · rename_i w hw
        cases hr
        have hroot := hf _ (Entries.mem_of_get? hw)
        exact ((isSized_decode hroot).1 draft hd).isConsistent_place hc
      · cases hr
  | _ => cases h

/-- Whatever the text, a snapshot that can be read from it has a consistent tree. -/
theorem isConsistent_of_read {now : Float} {t : Text} {s : Snapshot} (h : read now t = .ok s) :
    s.root.IsConsistent := by
  rw [read] at h
  split at h
  · cases h
  · rename_i v hv
    exact isConsistent_of_decode (Json.isDistinct_of_read hv) h

end VirtualShell.Snapshot
