import VirtualShell.Pattern.Search
/-
  Matching goes on.

  A pattern that matches hands the rest a place that is not before the one where it began and that
  still lies in the line, whatever groups, repetitions and look-arounds it took to get there. So a
  hit is a stretch of the line, and one that has to take in something does.
-/

namespace VirtualShell

/-- The rest leads to `q` from a place at `i` or after it, in the line. -/
def Rest.Reaches (text : Line) (rest : Rest) (i : Nat) (q : Place) : Prop :=
  ∃ p, i ≤ p.index ∧ p.index ≤ text.size ∧ rest p = some q

theorem Rest.Reaches.of_le {text : Line} {rest : Rest} {i j : Nat} {q : Place}
    (h : rest.Reaches text j q) (hij : i ≤ j) : rest.Reaches text i q := by
  obtain ⟨p, hp, hsize, hrest⟩ := h
  exact ⟨p, Nat.le_trans hij hp, hsize, hrest⟩

/-- Whatever the step succeeds with, the rest has led there from a place that is not before the one
where the step began. -/
def GoesOn (text : Line) (step : Place → Rest → Option Place) : Prop :=
  ∀ ⦃p : Place⦄ ⦃rest : Rest⦄ ⦃q : Place⦄, p.index ≤ text.size → step p rest = some q →
    rest.Reaches text p.index q

namespace Pattern

variable {text : Line} {single : Pattern} {rest : Rest} {p q : Place} {rounds : Rounds}

/-! ## Single code points -/

theorem goesOn_one (text : Line) (single : Pattern) : GoesOn text (one text single) := by
  intro p rest q _ h
  rw [one] at h
  split at h
  · split at h
    · exact ⟨_, Nat.le_succ _, by assumption, h⟩
    · cases h
  · cases h

theorem le_stopAlong (text : Line) (single : Pattern) (n i : Nat) :
    i ≤ stopAlong text single n i := by
  induction n generalizing i with
  | zero => exact Nat.le_refl i
  | succ n ih =>
    rw [stopAlong]
    split
    · split
      · exact Nat.le_trans (Nat.le_succ i) (ih (i + 1))
      · exact Nat.le_refl i
    · exact Nat.le_refl i

theorem stopAlong_le_size {i : Nat} (n : Nat) (h : i ≤ text.size) :
    stopAlong text single n i ≤ text.size := by
  induction n generalizing i with
  | zero => exact h
  | succ n ih =>
    rw [stopAlong]
    split
    · split
      · exact ih (by assumption)
      · exact h
    · exact h

theorem reaches_of_nearer {n : Nat} (hn : p.index + n ≤ text.size) (h : nearer p rest n = some q) :
    rest.Reaches text p.index q := by
  induction n with
  | zero => exact ⟨p, Nat.le_refl _, hn, h⟩
  | succ n ih =>
    rw [nearer] at h
    split at h
    · rename_i found hfound
      cases h
      exact ⟨_, Nat.le_add_right _ _, hn, hfound⟩
    · exact ih (by omega) h

theorem reaches_of_further {n : Nat} (hn : p.index + n ≤ text.size)
    (h : further rest n p = some q) : rest.Reaches text p.index q := by
  induction n generalizing p with
  | zero => exact ⟨p, Nat.le_refl _, hn, h⟩
  | succ n ih =>
    rw [further] at h
    split at h
    · rename_i found hfound
      cases h
      exact ⟨p, Nat.le_refl _, by omega, hfound⟩
    · exact (ih (p := { p with index := p.index + 1 }) (by dsimp only; omega) h).of_le
        (Nat.le_succ _)

theorem goesOn_repeatSingle (text : Line) (single : Pattern) (greed : Greed) (least : Nat)
    (most : Option Nat) : GoesOn text (repeatSingle text single greed least most) := by
  intro p rest q hp h
  rw [repeatSingle] at h
  dsimp only at h
  -- as many code points as there can be, all of them in the line
  generalize hstop : stopAlong text single (min (most.getD (text.size - p.index))
    (text.size - p.index)) p.index = stop at h
  have hle : p.index ≤ stop := hstop ▸ le_stopAlong text single _ p.index
  have hsize : stop ≤ text.size := hstop ▸ stopAlong_le_size _ hp
  split at h
  · cases h
  · cases greed with
    | greedy =>
      exact (reaches_of_nearer (p := { p with index := p.index + least }) (by dsimp only; omega)
        h).of_le (Nat.le_add_right _ _)
    | «lazy» =>
      exact (reaches_of_further (p := { p with index := p.index + least }) (by dsimp only; omega)
        h).of_le (Nat.le_add_right _ _)
    | possessive => exact ⟨_, Nat.le_add_right _ _, by dsimp only; omega, h⟩

/-! ## Repetitions -/

theorem reaches_of_greedily (hround : GoesOn text rounds.round) (hp : p.index ≤ text.size)
    {fuel count : Nat} {last : Option Nat} (h : greedily rounds rest fuel count last p = some q) :
    rest.Reaches text p.index q := by
  induction fuel generalizing count last p with
  | zero => cases h
  | succ fuel ih =>
    have hnext {count : Nat} {last : Option Nat}
        (h : rounds.round p (fun q => greedily rounds rest fuel count last q) = some q) :
        rest.Reaches text p.index q := by
      obtain ⟨p', hle, hsize, hrest⟩ := hround hp h
      exact (ih hsize hrest).of_le hle
    rw [greedily] at h
    split at h
    · exact hnext h
    · split at h
      · split at h
        · rename_i found hfound
          cases h
          exact hnext hfound
        · exact ⟨p, Nat.le_refl _, hp, h⟩
      · exact ⟨p, Nat.le_refl _, hp, h⟩

theorem reaches_of_lazily (hround : GoesOn text rounds.round) (hp : p.index ≤ text.size)
    {fuel count : Nat} {last : Option Nat} (h : lazily rounds rest fuel count last p = some q) :
    rest.Reaches text p.index q := by
  induction fuel generalizing count last p with
  | zero => cases h
  | succ fuel ih =>
    have hnext {count : Nat} {last : Option Nat}
        (h : rounds.round p (fun q => lazily rounds rest fuel count last q) = some q) :
        rest.Reaches text p.index q := by
      obtain ⟨p', hle, hsize, hrest⟩ := hround hp h
      exact (ih hsize hrest).of_le hle
    rw [lazily] at h
    split at h
    · exact hnext h
    · split at h
      · rename_i found hfound
        cases h
        exact ⟨p, Nat.le_refl _, hp, hfound⟩
      · split at h
        · exact hnext h
        · cases h

theorem le_of_possessively (hround : GoesOn text rounds.round) (hp : p.index ≤ text.size)
    {fuel count : Nat} {last : Option Nat} (h : possessively rounds fuel count last p = some q) :
    p.index ≤ q.index ∧ q.index ≤ text.size := by
  induction fuel generalizing count last p with
  | zero => cases h
  | succ fuel ih =>
    have hnext {p' : Place} {count : Nat} {last : Option Nat}
        (hfound : rounds.round p some = some p')
        (h : possessively rounds fuel count last p' = some q) :
        p.index ≤ q.index ∧ q.index ≤ text.size := by
      obtain ⟨_, hle, hsize, hrest⟩ := hround hp hfound
      cases hrest
      exact ⟨Nat.le_trans hle (ih hsize h).1, (ih hsize h).2⟩
    rw [possessively] at h
    split at h
    · split at h
      · rename_i found hfound
        exact hnext hfound h
      · cases h
    · split at h
      · split at h
        · rename_i found hfound
          exact hnext hfound h
        · cases h
          exact ⟨Nat.le_refl _, hp⟩
      · cases h
        exact ⟨Nat.le_refl _, hp⟩

/-! ## What a group took in -/

theorem le_size_of_sameRun {fold : Fold} {n i j : Nat} (h : sameRun text fold n i j = true)
    (hj : j ≤ text.size) : j + n ≤ text.size := by
  induction n generalizing i j with
  | zero => exact hj
  | succ n ih =>
    rw [sameRun] at h
    split at h
    · rename_i c d hc hd
      have hlt : j < text.size := (Array.getElem?_eq_some_iff.mp hd).1
      have := ih (Bool.and_eq_true_iff.mp h).2 hlt
      omega
    · cases h

theorem goesOn_again (text : Line) (fold : Fold) (c : Capture) :
    GoesOn text (again text fold c) := by
  intro p rest q hp h
  rw [again] at h
  split at h
  · rename_i hsame
    exact ⟨_, Nat.le_add_right _ _, le_size_of_sameRun hsame hp, h⟩
  · cases h

/-! ## All patterns -/

theorem goesOn_run (text : Line) (pattern : Pattern) : GoesOn text (run text pattern) := by
  induction pattern with
  | empty =>
    intro p rest q hp h
    exact ⟨p, Nat.le_refl _, hp, h⟩
  | anyChar o => exact goesOn_one text (anyChar o)
  | letter o d => exact goesOn_one text (letter o d)
  | set o items negated => exact goesOn_one text (set o items negated)
  | otherThan o d => exact goesOn_one text (otherThan o d)
  | anchor o a =>
    intro p rest q hp h
    rw [run] at h
    split at h
    · exact ⟨p, Nat.le_refl _, hp, h⟩
    · cases h
  | seq a b iha ihb =>
    intro p rest q hp h
    rw [run] at h
    obtain ⟨p', hle, hsize, hrest⟩ := iha hp h
    exact (ihb hsize hrest).of_le hle
  | alt a b iha ihb =>
    intro p rest q hp h
    rw [run] at h
    split at h
    · rename_i found hfound
      cases h
      exact iha hp hfound
    · exact ihb hp h
  | repeats greed least most body ih =>
    intro p rest q hp h
    rw [run] at h
    split at h
    · exact goesOn_repeatSingle text body greed least most hp h
    · cases greed with
      | greedy => exact reaches_of_greedily ih hp h
      | «lazy» => exact reaches_of_lazily ih hp h
      | possessive =>
        dsimp only at h
        split at h
        · rename_i found hfound
          have hround : GoesOn text (Rounds.mk (run text body) least most).round := ih
          obtain ⟨hle, hsize⟩ := le_of_possessively hround hp hfound
          exact ⟨found, hle, hsize, h⟩
        · cases h
  | group index body ih =>
    intro p rest q hp h
    rw [run] at h
    obtain ⟨p', hle, hsize, hrest⟩ := ih hp h
    exact ⟨p'.close index p.index, hle, hsize, hrest⟩
  | atomic body ih =>
    intro p rest q hp h
    rw [run] at h
    split at h
    · rename_i found hfound
      obtain ⟨_, hle, hsize, hrest⟩ := ih hp hfound
      cases hrest
      exact ⟨_, hle, hsize, h⟩
    · cases h
  | lookAhead negated body ih =>
    intro p rest q hp h
    rw [run] at h
    split at h
    · rename_i found _
      split at h
      · cases h
      · exact ⟨{ p with captures := found.captures }, Nat.le_refl _, hp, h⟩
    · split at h
      · exact ⟨p, Nat.le_refl _, hp, h⟩
      · cases h
  | lookBehind negated body ih =>
    intro p rest q hp h
    rw [run] at h
    split at h
    · rename_i found _
      split at h
      · cases h
      · exact ⟨{ p with captures := found.captures }, Nat.le_refl _, hp, h⟩
    · split at h
      · exact ⟨p, Nat.le_refl _, hp, h⟩
      · cases h
  | backReference o index width =>
    intro p rest q hp h
    rw [run] at h
    split at h
    · exact goesOn_again text o.fold _ hp h
    · cases h
  | ifGroup index yes no ihyes ihno =>
    intro p rest q hp h
    rw [run] at h
    split at h
    · exact ihyes hp h
    · exact ihno hp h

/-! ## A match at a place -/

/-- A match is a stretch of the line, and takes in something if it has to. -/
theorem le_size_of_matchAt {pattern : Pattern} {moving : Bool} {i n : Nat} (hi : i ≤ text.size)
    (h : pattern.matchAt text moving i = some n) :
    i + n ≤ text.size ∧ (moving = true → 0 < n) := by
  rw [matchAt, Option.map_eq_some_iff] at h
  obtain ⟨q, hq, rfl⟩ := h
  obtain ⟨p, hle, hsize, hrest⟩ := goesOn_run text pattern (p := ⟨i, []⟩) hi hq
  dsimp only at hle hrest
  split at hrest
  · cases hrest
  · rename_i hmoved
    cases hrest
    refine ⟨by omega, fun hmoving => ?_⟩
    rw [hmoving, Bool.true_and, beq_iff_eq] at hmoved
    omega

end Pattern

end VirtualShell
