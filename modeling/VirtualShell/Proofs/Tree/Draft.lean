import VirtualShell.Tree.Draft
import VirtualShell.Proofs.Json.Distinct
import VirtualShell.Proofs.Tree.Consistent
/-
  An accepted draft is a consistent tree.

  The check looks at the labels only. Distinct keys and right sizes are what the decoder
  sees to; on a draft that has them, an accepted check leaves nothing to be wished for.
-/

namespace VirtualShell.Draft

/-- A draft with distinct keys in which every file has the size of its content. -/
inductive IsSized : Draft → Prop
  | file {name path : Json} {mtime : Float} {content : Text} {size : Nat} :
    contentSize? content = some size → IsSized (.file name path mtime content size)
  | directory {name path : Json} {mtime : Float} {children : List (Text × Draft)} :
    (Entries.keys children).Nodup → (∀ e ∈ children, IsSized e.2) →
    IsSized (.directory name path mtime children)

/-! ## The check, entry by entry -/

theorem isLabel_iff {label : Text} {v : Json} : isLabel label v = true ↔ v = .text label := by
  cases v <;> simp [isLabel]

theorem checkLabels_eq_ok {parent : Text} {children : List (Text × Draft)} :
    checkLabels parent children = .ok () ↔
      ∀ e ∈ children, e.2.name = .text e.1 ∧ Name.IsProper e.1 ∧
        e.2.path = .text (Path.join parent e.1) := by
  induction children with
  | nil => simp [checkLabels]
  | cons e rest ih =>
    rw [checkLabels, List.forall_mem_cons, ← ih, ← isLabel_iff, ← isLabel_iff, ← Name.isValid_iff]
    split
    · rename_i h
      rw [Bool.or_eq_true, Bool.not_eq_true', Bool.not_eq_true'] at h
      rcases h with h | h <;> simp [h]
    · rename_i h
      simp only [Bool.or_eq_true, Bool.not_eq_true', not_or, Bool.not_eq_false] at h
      split
      · rename_i hp
        rw [Bool.not_eq_true'] at hp
        simp [hp]
      · rename_i hp
        rw [Bool.not_eq_true', Bool.not_eq_false] at hp
        simp [h, hp]

theorem checkEach_eq_ok {parent : Text} {children : List (Text × Draft)} :
    checkEach parent children = .ok () ↔
      ∀ e ∈ children, checkBelow (Path.join parent e.1) e.2 = .ok () := by
  induction children with
  | nil => simp [checkEach]
  | cons e rest ih => rw [checkEach, unit_bind_eq_ok, ih, List.forall_mem_cons]

theorem checkBelow_directory_eq_ok {name path : Json} {mtime : Float} {parent : Text}
    {children : List (Text × Draft)} :
    checkBelow parent (.directory name path mtime children) = .ok () ↔
      (∀ e ∈ children, e.2.name = .text e.1 ∧ Name.IsProper e.1 ∧
        e.2.path = .text (Path.join parent e.1)) ∧
      ∀ e ∈ children, checkBelow (Path.join parent e.1) e.2 = .ok () := by
  rw [checkBelow, unit_bind_eq_ok, checkLabels_eq_ok, checkEach_eq_ok]

theorem check_eq_ok {root : Draft} :
    root.check = .ok () ↔ ∃ mtime children,
      root = .directory (.text []) (.text Path.root) mtime children ∧
      checkBelow Path.root root = .ok () := by
  cases root with
  | file => simp [check]
  | directory name path mtime children =>
    rw [check]
    by_cases h : isLabel Path.root path = true ∧ isLabel [] name = true
    · rw [if_pos (by simp [h])]
      rw [isLabel_iff, isLabel_iff] at h
      simp [h]
    · rw [if_neg (by simpa using h)]
      rw [isLabel_iff, isLabel_iff] at h
      constructor
      · intro e
        cases e
      · rintro ⟨m, c, e, -⟩
        cases e
        exact absurd ⟨rfl, rfl⟩ h

/-! ## The tree made of a draft -/

theorem placeAll_eq_map (parent : Text) (children : List (Text × Draft)) :
    placeAll parent children =
      children.map fun e => (e.1, place e.1 (Path.join parent e.1) e.2) := by
  induction children with
  | nil => rfl
  | cons e rest ih => rw [placeAll, ih, List.map_cons]

theorem keys_placeAll (parent : Text) (children : List (Text × Draft)) :
    Entries.keys (placeAll parent children) = Entries.keys children := by
  simp [placeAll_eq_map, Entries.keys, Function.comp_def]

theorem IsSized.isNamed_place {d : Draft} (h : d.IsSized) :
    ∀ {path : Text} (name : Text),
      checkBelow path d = .ok () → (d.place name path).IsNamed name := by
  induction h with
  | file hs => intro path name _; exact ⟨rfl, hs⟩
  | directory hd _ ih =>
    intro path name hc
    rw [checkBelow_directory_eq_ok] at hc
    rw [place, Node.isNamed_directory, keys_placeAll]
    refine ⟨rfl, hd, fun e he => ?_⟩
    rw [placeAll_eq_map, List.mem_map] at he
    obtain ⟨e, he, rfl⟩ := he
    exact ⟨(hc.1 e he).2.1, ih e he e.1 (hc.2 e he)⟩

/-- Paths are made from the keys, so they fit whatever the draft says. -/
theorem IsSized.isPlaced_place {d : Draft} (h : d.IsSized) :
    ∀ name path : Text, (d.place name path).IsPlaced path := by
  induction h with
  | file => intro name path; rfl
  | directory _ _ ih =>
    intro name path
    rw [place, Node.isPlaced_directory]
    refine ⟨rfl, fun e he => ?_⟩
    rw [placeAll_eq_map, List.mem_map] at he
    obtain ⟨e, he, rfl⟩ := he
    exact ih e he e.1 (Path.join path e.1)

theorem IsSized.isConsistent_place {d : Draft} (h : d.IsSized) (hc : d.check = .ok ()) :
    (d.place [] Path.root).IsConsistent := by
  obtain ⟨mtime, children, rfl, hb⟩ := check_eq_ok.mp hc
  rw [Node.isConsistent_iff]
  exact ⟨rfl, h.isNamed_place [] hb, h.isPlaced_place [] Path.root⟩

end VirtualShell.Draft
