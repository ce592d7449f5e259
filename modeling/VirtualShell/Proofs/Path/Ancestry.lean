import Mathlib.Order.Defs.Unbundled
import VirtualShell.Proofs.Path
/-
  Parents and ancestors of normal paths.

  A normal path other than the root is made of its parent and a name, in one way only, and what it
  lies within is itself and what its parent lies within. So lying within is a matter of names, one
  after the other, and never of the text: a path does not lie within another because the text of a
  name starts with the text of another name.
-/

namespace VirtualShell.Path

variable {path above parent name : Text}

theorem IsNormal.join_split (h : IsNormal path) (hne : path ≠ root) :
    IsNormal (split path).1 ∧ Name.IsProper (split path).2 ∧
      join (split path).1 (split path).2 = path := by
  rcases h.split_cases with ⟨hroot, -⟩ | ⟨parent, name, hparent, hname, hsplit, -, hjoin⟩
  · exact absurd hroot hne
  · rw [hsplit]
    exact ⟨hparent, hname, hjoin.symm⟩

theorem IsNormal.split_join (h : IsNormal parent) (hn : Name.IsProper name) :
    split (join parent name) = (parent, name) := by
  obtain ⟨names, hnames, rfl⟩ := h
  rw [join_render hnames]
  exact split_render_append (List.forall_mem_append.mpr ⟨hnames, by simpa using hn⟩)

/-- A normal path lies within itself and, unless it is the root, within what its parent lies
within. -/
theorem IsNormal.isWithin_iff_split (hp : IsNormal path) (ha : IsNormal above) :
    isWithin path above = true ↔
      path = above ∨ path ≠ root ∧ isWithin (split path).1 above = true := by
  rw [hp.isWithin_iff ha]
  rcases hp.split_cases with ⟨rfl, -⟩ | ⟨parent, name, hparent, hname, hsplit, hsegments, -⟩
  -- the root has no parent to go on with, and lies within itself alone
  · rw [segments_root, List.prefix_nil, ← segments_root, ha.segments_inj isNormal_root]
    exact ⟨fun h => .inl h.symm, fun h => h.elim Eq.symm fun h => absurd rfl h.1⟩
  · have hne : path ≠ root := by
      rintro rfl
      rw [segments_root] at hsegments
      simp at hsegments
    rw [hsplit, hparent.isWithin_iff ha, hsegments, List.prefix_concat_iff, ← hsegments,
      ha.segments_inj hp]
    exact or_congr eq_comm (and_iff_right hne).symm

/-- A path that is normal. -/
abbrev NormalPath := {path : Text // IsNormal path}

instance isPartialOrder_isWithin :
    IsPartialOrder NormalPath fun path above => isWithin path above = true where
  refl path := (path.2.isWithin_iff path.2).mpr List.prefix_rfl
  trans path middle above hm ha := by
    rw [path.2.isWithin_iff middle.2] at hm
    rw [middle.2.isWithin_iff above.2] at ha
    exact (path.2.isWithin_iff above.2).mpr (ha.trans hm)
  antisymm path other h h' := by
    rw [path.2.isWithin_iff other.2] at h
    rw [other.2.isWithin_iff path.2] at h'
    have hsame := h'.eq_of_length_le h.length_le
    exact Subtype.ext ((path.2.segments_inj other.2).mp hsame)

/-- Splitting a normal path and joining what it is split into undo each other, and a normal path
lies within another just when the names of the other are the first of its own. This orders the
normal paths, and one step up at a time decides it. -/
theorem IsNormal.ancestry (hp : IsNormal path) (ha : IsNormal above) :
    (path ≠ root → IsNormal (split path).1 ∧ Name.isValid (split path).2 = true ∧
      join (split path).1 (split path).2 = path) ∧
    (∀ name, Name.isValid name = true →
      IsNormal (join above name) ∧ split (join above name) = (above, name)) ∧
    (isWithin path above = true ↔ segments above <+: segments path) ∧
    IsPartialOrder NormalPath (fun path above => isWithin path above = true) ∧
    (isWithin path above = true ↔
      path = above ∨ path ≠ root ∧ isWithin (split path).1 above = true) := by
  refine ⟨fun hne => ?_, fun name hname => ?_, hp.isWithin_iff ha, isPartialOrder_isWithin,
    hp.isWithin_iff_split ha⟩
  · obtain ⟨hparent, hname, hjoin⟩ := hp.join_split hne
    exact ⟨hparent, Name.isValid_iff.mpr hname, hjoin⟩
  · rw [Name.isValid_iff] at hname
    exact ⟨isNormal_join ha hname, ha.split_join hname⟩

/-- A name that starts with the text of another is not below it. -/
theorem ancestry_of_similar_names : IsNormal "/ab/c" ∧ IsNormal "/a" ∧
    ¬ isWithin "/ab/c" "/a" = true ∧ isWithin (split "/ab/c").1 "/ab" = true := by
  have hp : IsNormal "/ab/c" := isNormal_iff.mpr (by decide)
  have ha : IsNormal "/a" := isNormal_iff.mpr (by decide)
  have hab : IsNormal "/ab" := isNormal_iff.mpr (by decide)
  obtain ⟨-, -, hwithin, -, -⟩ := hp.ancestry ha
  obtain ⟨-, -, -, -, hstep⟩ := hp.ancestry hab
  refine ⟨hp, ha, fun h => absurd (hwithin.mp h) (by decide), ?_⟩
  exact ((hstep.mp (by decide)).resolve_left (by decide)).2

end VirtualShell.Path
