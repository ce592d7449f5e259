import VirtualShell.Text.Basic
/-
  The order of texts.

  Texts are compared code point by code point, a beginning before what goes on from it. Any two
  texts compare, and only equal ones both ways, so sorting puts texts in order and there is no
  second way to do so.
-/

namespace VirtualShell.Text

theorem le_total (s t : Text) : (le s t || le t s) = true := by
  induction s generalizing t with
  | nil => rfl
  | cons a s ih =>
    cases t with
    | nil => rfl
    | cons b t =>
      have hrest := ih t
      simp only [le, Bool.or_eq_true, Bool.and_eq_true, decide_eq_true_eq, beq_iff_eq] at hrest ⊢
      rcases Nat.lt_trichotomy a.val b.val with h | h | h
      · exact .inl (.inl h)
      · exact hrest.imp (fun hs => .inr ⟨h, hs⟩) fun ht => .inr ⟨h.symm, ht⟩
      · exact .inr (.inl h)

theorem le_trans (s t u : Text) (hst : le s t = true) (htu : le t u = true) : le s u = true := by
  induction s generalizing t u with
  | nil => rfl
  | cons a s ih =>
    match t, u, hst, htu with
    | b :: t, c :: u, hst, htu =>
      have hrest := ih t u
      simp only [le, Bool.or_eq_true, Bool.and_eq_true, decide_eq_true_eq, beq_iff_eq] at *
      rcases hst with hab | ⟨hab, hst⟩
      · left
        omega
      · rcases htu with hbc | ⟨hbc, htu⟩
        · left
          omega
        · exact .inr ⟨hab.trans hbc, hrest hst htu⟩

theorem le_antisymm (s t : Text) (hst : le s t = true) (hts : le t s = true) : s = t := by
  induction s generalizing t with
  | nil =>
    cases t with
    | nil => rfl
    | cons b t => cases hts
  | cons a s ih =>
    cases t with
    | nil => cases hst
    | cons b t =>
      simp only [le, Bool.or_eq_true, Bool.and_eq_true, decide_eq_true_eq, beq_iff_eq] at hst hts
      have hval : a.val = b.val := by omega
      obtain rfl : a = b := by
        cases a
        cases b
        cases hval
        rfl
      rw [ih t (hst.resolve_left (Nat.lt_irrefl _)).2 (hts.resolve_left (Nat.lt_irrefl _)).2]

theorem perm_sorted (ts : List Text) : (sorted ts).Perm ts := List.mergeSort_perm ts le

theorem pairwise_sorted (ts : List Text) : (sorted ts).Pairwise fun s t => le s t = true :=
  List.pairwise_mergeSort le_trans le_total ts

/-- There is one way to put texts in order. -/
theorem sorted_eq {ordered ts : List Text} (hp : ordered.Perm ts)
    (ho : ordered.Pairwise fun s t => le s t = true) : sorted ts = ordered :=
  List.Perm.eq_of_pairwise (fun s t _ _ => le_antisymm s t) (pairwise_sorted ts) ho
    ((perm_sorted ts).trans hp.symm)

end VirtualShell.Text
