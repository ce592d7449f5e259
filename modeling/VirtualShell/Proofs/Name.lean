import VirtualShell.Proofs.Numeral
import VirtualShell.Proofs.Path
/-
  The name of a copy.

  The candidates for the name of a copy are all different, so the search among one more
  of them than there are names taken ends at one that is free. It would end there as well
  if it had no bound (`searchEnds_iff`). A mark is put into a proper name without making
  it improper.
-/

namespace VirtualShell.Name

/-- A name in two parts, between which the mark of a copy goes: before its last dot or, if it has
none, at its end. -/
structure IsCut (name before after : Text) : Prop where
  eq : name = before ++ after
  after_cases : (after = [] ∧ CodePoint.ofChar '.' ∉ name) ∨
    ∃ extension, after = CodePoint.ofChar '.' :: extension ∧ CodePoint.ofChar '.' ∉ extension

theorem isCut_stemAndExtension (name : Text) :
    IsCut name (stemAndExtension name).1 (stemAndExtension name).2 := by
  rw [stemAndExtension]
  split
  · rename_i stem extension h
    obtain ⟨heq, hnot⟩ := Text.eq_of_cutLast h
    exact ⟨heq, .inr ⟨extension, rfl, hnot⟩⟩
  · rename_i h
    exact ⟨(List.append_nil name).symm, .inl ⟨rfl, Text.cutLast_eq_none_iff.mp h⟩⟩

theorem eq_stem_append_extension (name : Text) :
    name = (stemAndExtension name).1 ++ (stemAndExtension name).2 :=
  (isCut_stemAndExtension name).eq

theorem candidate_of_ne_zero (name : Text) {k : Nat} (h : k ≠ 0) :
    candidate name k = (stemAndExtension name).1 ++ copyMark k ++ (stemAndExtension name).2 :=
  if_neg h

/-! ## The candidates differ -/

theorem length_candidate_zero (name : Text) : (candidate name 0).length = name.length := rfl

theorem length_candidate {name : Text} {k : Nat} (h : k ≠ 0) :
    (candidate name k).length = name.length + (copyMark k).length := by
  have hl := congrArg List.length (eq_stem_append_extension name)
  rw [List.length_append] at hl
  rw [candidate, if_neg h]
  simp only [List.length_append]
  omega

theorem copyMark_of_ne_one {k : Nat} (h : k ≠ 1) :
    copyMark k = " (copy " ++ Text.ofNat k ++ ")" := by
  rw [copyMark, if_neg h]

theorem length_copyMark_one : (copyMark 1).length = 7 := by decide

theorem length_copyMark {k : Nat} (h : k ≠ 1) :
    (copyMark k).length = 8 + (Text.ofNat k).length := by
  rw [copyMark_of_ne_one h]
  simp only [List.length_append]
  rw [show (Text.ofString " (copy ").length = 7 by decide,
    show (Text.ofString ")").length = 1 by decide]
  omega

theorem copyMark_injective {j k : Nat} (h : copyMark j = copyMark k) : j = k := by
  -- the length tells the first mark from all others
  have hl := congrArg List.length h
  by_cases hj : j = 1
  · subst hj
    by_cases hk : k = 1
    · exact hk.symm
    · rw [length_copyMark_one, length_copyMark hk] at hl
      omega
  · by_cases hk : k = 1
    · subst hk
      rw [length_copyMark_one, length_copyMark hj] at hl
      omega
    · rw [copyMark_of_ne_one hj, copyMark_of_ne_one hk] at h
      exact Text.ofNat_injective (List.append_cancel_left (List.append_cancel_right h))

theorem candidate_injective {name : Text} {j k : Nat} (h : candidate name j = candidate name k) :
    j = k := by
  have hl := congrArg List.length h
  have positive : ∀ k, 0 < (copyMark k).length := by
    intro k
    by_cases hk : k = 1
    · rw [hk, length_copyMark_one]
      omega
    · rw [length_copyMark hk]
      omega
  -- and the name itself from the ones with a mark
  by_cases hj : j = 0
  · by_cases hk : k = 0
    · rw [hj, hk]
    · rw [hj, length_candidate_zero, length_candidate hk] at hl
      have := positive k
      omega
  · by_cases hk : k = 0
    · rw [hk, length_candidate_zero, length_candidate hj] at hl
      have := positive j
      omega
    · rw [candidate, candidate, if_neg hj, if_neg hk] at h
      exact copyMark_injective (List.append_cancel_left (List.append_cancel_right h))

/-! ## The search ends at a free one -/

/-- The search gives a candidate, and every one it passed over is taken. -/
theorem firstFree_eq_candidate (name : Text) (taken : List Text) (more k : Nat) :
    ∃ j, k ≤ j ∧ j ≤ k + more ∧ firstFree name taken more k = candidate name j ∧
      (∀ i, k ≤ i → i < j → candidate name i ∈ taken) ∧
      (j < k + more → candidate name j ∉ taken) := by
  induction more generalizing k with
  | zero => exact ⟨k, by omega, by omega, rfl, fun i hi hj => by omega, fun h => by omega⟩
  | succ more ih =>
    rw [firstFree]
    by_cases hk : candidate name k ∈ taken
    · rw [if_pos (by simpa using hk)]
      obtain ⟨j, hkj, hjm, he, hpassed, hfree⟩ := ih (k + 1)
      refine ⟨j, by omega, by omega, he, ?_, fun h => hfree (by omega)⟩
      intro i hi hj
      by_cases hik : i = k
      · exact hik ▸ hk
      · exact hpassed i (by omega) hj
    · rw [if_neg (by simpa using hk)]
      exact ⟨k, by omega, by omega, rfl, fun i hi hj => by omega, fun _ => hk⟩

theorem forCopy_eq_candidate (name : Text) (taken : List Text) :
    ∃ j, forCopy name taken = candidate name j := by
  obtain ⟨j, -, -, he, -⟩ := firstFree_eq_candidate name taken taken.length 0
  exact ⟨j, he⟩

/-- The name of a copy is free. Were the last candidate looked at taken like all before
it, there would be more different names taken than there are names taken. -/
theorem forCopy_not_mem (name : Text) (taken : List Text) : forCopy name taken ∉ taken := by
  obtain ⟨j, -, hj, he, hpassed, hfree⟩ := firstFree_eq_candidate name taken taken.length 0
  rw [forCopy, he]
  intro hm
  by_cases hlt : j < 0 + taken.length
  · exact hfree hlt hm
  -- otherwise all candidates up to this one are taken
  have hnodup : ((List.range (j + 1)).map (candidate name)).Nodup :=
    List.Pairwise.map _ (fun a b hab e => hab (candidate_injective e)) List.nodup_range
  have hsub : (List.range (j + 1)).map (candidate name) ⊆ taken := by
    intro c hc
    obtain ⟨i, hi, rfl⟩ := List.mem_map.mp hc
    rw [List.mem_range] at hi
    by_cases hij : i = j
    · exact hij ▸ hm
    · exact hpassed i (by omega) (by omega)
  have hle := hnodup.length_le_of_subset hsub
  rw [List.length_map, List.length_range] at hle
  omega

/-- A name that is free is kept, and one that is not gets the first mark under which it is. -/
theorem forCopy_isFirst (name : Text) (taken : List Text) :
    ∃ k ≤ taken.length, forCopy name taken = candidate name k ∧
      ∀ i < k, candidate name i ∈ taken := by
  obtain ⟨k, -, hk, he, hpassed, -⟩ := firstFree_eq_candidate name taken taken.length 0
  exact ⟨k, by omega, he, fun i hi => hpassed i (Nat.zero_le i) hi⟩

/-- The search from the candidate numbered `k` on, in as many rounds as it takes. -/
inductive SearchEnds (name : Text) (taken : List Text) : Nat → Text → Prop
  | free {k : Nat} : candidate name k ∉ taken → SearchEnds name taken k (candidate name k)
  | taken {k : Nat} {t : Text} : candidate name k ∈ taken → SearchEnds name taken (k + 1) t →
    SearchEnds name taken k t

theorem SearchEnds.unique {name t u : Text} {taken : List Text} {k : Nat}
    (h : SearchEnds name taken k t) (h' : SearchEnds name taken k u) : t = u := by
  induction h with
  | free hfree =>
    cases h' with
    | free => rfl
    | taken htaken => exact absurd htaken hfree
  | taken htaken _ ih =>
    cases h' with
    | free hfree => exact absurd htaken hfree
    | taken _ h' => exact ih h'

theorem searchEnds_of_first {name : Text} {taken : List Text} {k more : Nat}
    (hfree : candidate name (k + more) ∉ taken)
    (hpassed : ∀ i < k + more, candidate name i ∈ taken) :
    SearchEnds name taken k (candidate name (k + more)) := by
  induction more generalizing k with
  | zero => exact .free hfree
  | succ more ih =>
    rw [← Nat.add_assoc, Nat.add_right_comm] at hfree hpassed ⊢
    exact .taken (hpassed k (by omega)) (ih hfree hpassed)

/-- The search ends without any bound on its rounds, at the name that is found with one. -/
theorem searchEnds_iff {name t : Text} {taken : List Text} :
    SearchEnds name taken 0 t ↔ t = forCopy name taken := by
  obtain ⟨k, -, he, hpassed⟩ := forCopy_isFirst name taken
  have hfree := forCopy_not_mem name taken
  rw [he] at hfree ⊢
  have hends : SearchEnds name taken 0 (candidate name k) := by
    rw [← Nat.zero_add k] at hfree hpassed ⊢
    exact searchEnds_of_first hfree hpassed
  exact ⟨fun h => h.unique hends, fun h => h ▸ hends⟩

/-! ## A copy of a proper name has a proper name -/

theorem slash_not_mem_copyMark (k : Nat) : CodePoint.ofChar '/' ∉ copyMark k := by
  by_cases hk : k = 1
  · subst hk
    decide
  · rw [copyMark_of_ne_one hk]
    intro hm
    simp only [List.mem_append] at hm
    rcases hm with (hm | hm) | hm
    · revert hm
      decide
    · have := Text.isAsciiDigit_of_mem_ofNat _ hm
      revert this
      decide
    · revert hm
      decide

theorem space_mem_copyMark (k : Nat) : CodePoint.ofChar ' ' ∈ copyMark k := by
  by_cases hk : k = 1
  · subst hk
    decide
  · rw [copyMark_of_ne_one hk]
    exact List.mem_append_left _ (List.mem_append_left _ (by decide))

theorem isProper_candidate {name : Text} (h : IsProper name) (k : Nat) :
    IsProper (candidate name k) := by
  by_cases hk : k = 0
  · subst hk
    exact h
  have hspace : CodePoint.ofChar ' ' ∈ candidate name k := by
    rw [candidate, if_neg hk]
    exact List.mem_append_left _ (List.mem_append_right _ (space_mem_copyMark k))
  refine ⟨List.ne_nil_of_mem hspace, ?_, ?_, ?_⟩
  · have hname := h.2.1
    rw [eq_stem_append_extension name, List.mem_append, not_or] at hname
    rw [candidate, if_neg hk]
    simp only [List.mem_append, not_or]
    exact ⟨⟨hname.1, slash_not_mem_copyMark k⟩, hname.2⟩
  · intro e
    rw [e] at hspace
    revert hspace
    decide
  · intro e
    rw [e] at hspace
    revert hspace
    decide

theorem isProper_forCopy {name : Text} (h : IsProper name) (taken : List Text) :
    IsProper (forCopy name taken) := by
  obtain ⟨j, hj⟩ := forCopy_eq_candidate name taken
  rw [hj]
  exact isProper_candidate h j

end VirtualShell.Name
