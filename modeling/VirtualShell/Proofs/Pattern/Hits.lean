import VirtualShell.Proofs.Markup
import VirtualShell.Proofs.Pattern.Progress
/-
  The hits in a line, from left to right.

  A search goes from hit to hit: the first one from the beginning, then the first from where it
  ended, and so on until there is none. `HasHits` says this of a list of stretches without saying
  when the search gives up, and a search does not give up before: each hit ends further on than the
  one before or, where that was empty, has to take in something, so there are no more of them than
  the search allows for. With its hits marked, a line still has all its text, in its order.
-/

namespace VirtualShell.Pattern

variable {pattern : Pattern} {line : Text} {moving : Bool} {i j n : Nat} {hits : List (Nat × Nat)}

/-- Whether the pattern has a match in the line, at one of its places. -/
def Matches (pattern : Pattern) (line : Text) : Prop :=
  ∃ i ≤ line.length, (pattern.matchAt line.toArray false i).isSome = true

instance (pattern : Pattern) : DecidablePred pattern.Matches := fun line =>
  inferInstanceAs (Decidable (∃ i ≤ line.length, (pattern.matchAt line.toArray false i).isSome = true))

/-- The first hit at or after the place `i` begins at `j` and takes in `n` code points. At `i`
itself it may be asked to take in something. -/
structure IsFirstHit (pattern : Pattern) (line : Text) (moving : Bool) (i j n : Nat) : Prop where
  start_le : i ≤ j
  stop_le : j + n ≤ line.length
  hit : pattern.matchAt line.toArray (moving && j == i) j = some n
  first : ∀ k, i ≤ k → k < j → pattern.matchAt line.toArray (moving && k == i) k = none

/-- The hits from the place `i` on, as where they begin and how much they take in: each is the first
from where the one before ended, after an empty one the next has to take in something if it begins
there, and after the last there is none. -/
inductive HasHits (pattern : Pattern) (line : Text) : Bool → Nat → List (Nat × Nat) → Prop
  | none {moving : Bool} {i : Nat} :
    (∀ k, i ≤ k → k ≤ line.length → pattern.matchAt line.toArray (moving && k == i) k = none) →
    HasHits pattern line moving i []
  | hit {moving : Bool} {i j n : Nat} {more : List (Nat × Nat)} :
    IsFirstHit pattern line moving i j n → HasHits pattern line (n == 0) (j + n) more →
    HasHits pattern line moving i ((j, n) :: more)

/-- What a hit becomes: marked text if it takes in any, and nothing else. -/
def markedHit (hit : Text) : Text := if hit = [] then [] else Markup.highlight hit

/-- The line from the place `i` on, with the hits marked. -/
def markedFrom (line : Text) : Nat → List (Nat × Nat) → Text
  | i, [] => line.drop i
  | i, (j, n) :: more =>
    (line.drop i).take (j - i) ++ markedHit ((line.drop j).take n) ++ markedFrom line (j + n) more

/-! ## The first hit -/

theorem isFirstHit_of_firstHit (hi : i ≤ line.length)
    (h : pattern.firstHit line.toArray moving i = some (j, n)) :
    IsFirstHit pattern line moving i j n := by
  fun_induction firstHit pattern line.toArray moving i with
  | case1 moving i m hmatch =>
    cases h
    rw [← List.size_toArray] at hi
    refine ⟨Nat.le_refl _, ?_, by simpa using hmatch, fun k hle hlt => by omega⟩
    rw [← List.size_toArray]
    exact (le_size_of_matchAt hi hmatch).1
  | case2 moving i hnone hlt ih =>
    rw [List.size_toArray] at hlt
    obtain ⟨hstart, hstop, hhit, hfirst⟩ := ih hlt h
    refine ⟨by omega, hstop, ?_, fun k hle hk => ?_⟩
    · rw [show (j == i) = false by simpa using (by omega : j ≠ i), Bool.and_false]
      rwa [Bool.false_and] at hhit
    · rcases Nat.eq_or_lt_of_le hle with rfl | hlt'
      · simpa using hnone
      · have hlater := hfirst k hlt' hk
        rw [show (k == i) = false by simpa using (by omega : k ≠ i), Bool.and_false]
        rwa [Bool.false_and] at hlater
  | case3 => cases h

theorem matchAt_eq_none_of_firstHit (h : pattern.firstHit line.toArray moving i = none) (k : Nat)
    (hle : i ≤ k) (hk : k ≤ line.length) :
    pattern.matchAt line.toArray (moving && k == i) k = none := by
  fun_induction firstHit pattern line.toArray moving i with
  | case1 => cases h
  | case2 moving i hnone hlt ih =>
    rcases Nat.eq_or_lt_of_le hle with rfl | hlt'
    · simpa using hnone
    · have hlater := ih h hlt'
      rw [show (k == i) = false by simpa using (by omega : k ≠ i), Bool.and_false]
      rwa [Bool.false_and] at hlater
  | case3 moving i hnone hge =>
    rw [List.size_toArray] at hge
    obtain rfl : i = k := by omega
    simpa using hnone

/-! ## All hits -/

/-- A hit that has to take in something at the place where it is looked for takes in something or
begins further on. -/
theorem IsFirstHit.moves (h : IsFirstHit pattern line true i j n) : i < j ∨ 0 < n := by
  have hstart := h.start_le
  rcases Nat.eq_or_lt_of_le h.start_le with rfl | hlt
  · have hsize : i ≤ line.toArray.size := by
      rw [List.size_toArray]
      have := h.stop_le
      omega
    have hhit := h.hit
    rw [beq_self_eq_true, Bool.and_true] at hhit
    exact .inr ((le_size_of_matchAt hsize hhit).2 rfl)
  · exact .inl hlt

/-- A search finds all hits, and its pieces are the line with the hits marked. -/
theorem exists_hits_of_piecesFrom (pattern : Pattern) (line : Text) (fuel : Nat) (moving : Bool)
    (i : Nat) (hi : i ≤ line.length)
    (hfuel : 2 * (line.length - i) + (if moving then 1 else 2) ≤ fuel) :
    ∃ hits, HasHits pattern line moving i hits ∧
      anyHit (pattern.piecesFrom line.toArray fuel moving i (line.drop i)) = (hits ≠ [] : Bool) ∧
      markHits markedHit (pattern.piecesFrom line.toArray fuel moving i (line.drop i)) =
        markedFrom line i hits := by
  induction fuel generalizing moving i with
  | zero => split at hfuel <;> omega
  | succ fuel ih =>
    rw [piecesFrom]
    cases hfirst : pattern.firstHit line.toArray moving i with
    | none =>
      exact ⟨[], .none (matchAt_eq_none_of_firstHit hfirst), rfl, by simp [markHits, markedFrom]⟩
    | some found =>
      obtain ⟨j, n⟩ := found
      have hhit := isFirstHit_of_firstHit hi hfirst
      have hstart := hhit.start_le
      have hstop := hhit.stop_le
      -- every hit uses up some of the bound
      have hleft : 2 * (line.length - (j + n)) + (if (n == 0) = true then 1 else 2) ≤ fuel := by
        cases moving with
        | true =>
          rcases hhit.moves with hlt | hpos <;> simp at hfuel ⊢ <;> split <;> omega
        | false => simp at hfuel ⊢; split <;> omega
      obtain ⟨hits, hmore, -, hmarked⟩ := ih _ _ hstop hleft
      refine ⟨(j, n) :: hits, .hit hhit hmore, rfl, ?_⟩
      have hdrop : (line.drop i).drop (j - i) = line.drop j := by
        rw [List.drop_drop, Nat.add_sub_cancel' hstart]
      dsimp only
      rw [hdrop, List.drop_drop, markedFrom, ← hmarked, List.append_assoc]
      simp only [markHits, List.flatMap_cons]

theorem strip_markedHit_append {hit : Text} (h : Markup.escape ∉ hit) (rest : Text) :
    Markup.strip (markedHit hit ++ rest) = hit ++ Markup.strip rest := by
  rw [markedHit]
  split
  · rename_i hempty
    rw [hempty]
    rfl
  · rw [Markup.highlight, List.append_assoc, List.append_assoc,
      Markup.strip_sequence_append Markup.isSequence_colours.2.2.1,
      Markup.strip_append_of_not_mem h,
      Markup.strip_sequence_append Markup.isSequence_colours.2.2.2]

/-- Stripped of the marks, the line is there again. -/
theorem HasHits.strip_markedFrom (h : HasHits pattern line moving i hits)
    (hescape : Markup.escape ∉ line) : Markup.strip (markedFrom line i hits) = line.drop i := by
  have hpart {t : Text} (ht : t ⊆ line) : Markup.escape ∉ t := fun hm => hescape (ht hm)
  induction h with
  | @none moving i =>
    rw [markedFrom]
    exact Markup.strip_of_not_mem (hpart (List.drop_subset i line))
  | @hit moving i j n more hhit _ ih =>
    have hbefore := hpart (List.Subset.trans (List.take_subset (j - i) _) (List.drop_subset i line))
    have htaken := hpart (List.Subset.trans (List.take_subset n _) (List.drop_subset j line))
    calc Markup.strip (markedFrom line i ((j, n) :: more))
        = (line.drop i).take (j - i) ++ ((line.drop j).take n ++ line.drop (j + n)) := by
          rw [markedFrom, List.append_assoc, Markup.strip_append_of_not_mem hbefore,
            strip_markedHit_append htaken, ih]
      _ = (line.drop i).take (j - i) ++ line.drop j := by
          rw [← List.drop_drop, List.take_append_drop]
      _ = line.drop i := by
          have hdrop : line.drop j = (line.drop i).drop (j - i) := by
            rw [List.drop_drop, Nat.add_sub_cancel' hhit.start_le]
          rw [hdrop, List.take_append_drop]

/-- There is a hit in a line just if the pattern matches it. -/
theorem HasHits.ne_nil_iff (h : HasHits pattern line false 0 hits) :
    hits ≠ [] ↔ pattern.Matches line := by
  cases h with
  | none hnone =>
    refine iff_of_false (by simp) ?_
    rintro ⟨k, hk, hmatch⟩
    have hno := hnone k (Nat.zero_le k) hk
    rw [Bool.false_and] at hno
    rw [hno] at hmatch
    cases hmatch
  | @hit _ _ j n more hhit =>
    refine iff_of_true (by simp) ⟨j, by have := hhit.stop_le; omega, ?_⟩
    have hfound := hhit.hit
    rw [Bool.false_and] at hfound
    rw [hfound]
    rfl

/-! ## Lines -/

/-- The second text is the first with its hits marked, of which there are some. -/
def IsMarked (pattern : Pattern) (line marked : Text) : Prop :=
  ∃ hits, HasHits pattern line false 0 hits ∧ hits ≠ [] ∧ marked = markedFrom line 0 hits

theorem IsMarked.strip {marked : Text} (h : pattern.IsMarked line marked)
    (hescape : Markup.escape ∉ line) : Markup.strip marked = line := by
  obtain ⟨hits, hhits, -, rfl⟩ := h
  rw [hhits.strip_markedFrom hescape, List.drop_zero]

/-- The pieces of a line hold a hit just if the pattern matches the line, and then they are the line
with its hits marked. -/
theorem pieces_marked (pattern : Pattern) (line : Text) :
    anyHit (pattern.pieces line) = decide (pattern.Matches line) ∧
      (pattern.Matches line →
        pattern.IsMarked line (markHits markedHit (pattern.pieces line))) := by
  obtain ⟨hits, hhits, hany, hmarked⟩ := exists_hits_of_piecesFrom pattern line
    (2 * line.length + 2) false 0 (Nat.zero_le _) (by simp)
  rw [List.drop_zero] at hany hmarked
  refine ⟨hany.trans (decide_eq_decide.mpr hhits.ne_nil_iff), fun h => ?_⟩
  exact ⟨hits, hhits, hhits.ne_nil_iff.mpr h, hmarked⟩

end VirtualShell.Pattern
