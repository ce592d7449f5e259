import VirtualShell.Text.Case
import VirtualShell.Proofs.Numeral
/-
  Small letters and where they come from.

  Lowering a text lengthens it at the dotted capital I and looks around at a capital sigma, and
  beyond that goes code point by code point. The small letters before `k`, and whatever else stands
  before them in ASCII, come from nothing but themselves and their own capitals, save that the dotted
  capital I gives an `i` with a combining dot behind it. So a beginning of such letters is found in
  the lowered text just where it stands, in either case, in the text itself.
-/

namespace VirtualShell

namespace CodePoint

/-- Moving leaves a code point alone, or follows one of the stretches. -/
theorem moveBy_cases (stretches : List CaseStretch) (c : CodePoint) :
    c.moveBy stretches = c ∨ ∃ s ∈ stretches, s.first ≤ c.val ∧ c.val ≤ s.last ∧
      c.moveBy stretches = ofNat (s.target + (c.val - s.first)) := by
  induction stretches with
  | nil => exact .inl rfl
  | cons s more ih =>
    rw [moveBy]
    split
    · exact .inl rfl
    · rename_i hfirst
      split
      · rename_i hlast
        rw [Bool.and_eq_true, decide_eq_true_eq] at hlast
        exact .inr ⟨s, List.mem_cons_self, Nat.le_of_not_lt hfirst, hlast.1, rfl⟩
      · rcases ih with h | ⟨s', hs', h⟩
        · exact .inl h
        · exact .inr ⟨s', List.mem_cons_of_mem _ hs', h⟩

/-- The stretches lead to `k`, where the Kelvin sign goes, and beyond, but for the one of the capitals
of ASCII. -/
theorem le_target_of_mem_lowerStretches : ∀ s ∈ lowerStretches,
    s = ⟨0x41, 0x5a, 1, 0x61⟩ ∨ 0x6b ≤ s.target := by decide +kernel

theorem le_val_ofNat {n low : Nat} (h : low ≤ n) (hlow : low ≤ 0xFFFD) : low ≤ (ofNat n).val := by
  rw [ofNat]
  split
  · exact h
  · exact hlow

/-- Where a code point before `k` comes from in lowering. -/
theorem lower_eq_cases {c x : CodePoint} (hx : x.val < 0x6b) (h : c.lower = x) :
    c.val = 0x130 ∨ c = x ∨ 0x41 ≤ c.val ∧ c.val ≤ 0x5a ∧ c.val + 0x20 = x.val := by
  rw [lower] at h
  split at h
  · rename_i hdotted
    exact .inl (beq_iff_eq.mp hdotted)
  · right
    rcases moveBy_cases lowerStretches c with hself | ⟨s, hs, hfirst, hlast, hmove⟩
    · exact .inl (hself.symm.trans h)
    · right
      rw [hmove] at h
      rcases le_target_of_mem_lowerStretches s hs with rfl | htarget
      · subst h
        dsimp only at hfirst hlast hx ⊢
        rw [ofNat, dif_pos (by omega)]
        dsimp only
        omega
      · have hlow : 0x6b ≤ (ofNat (s.target + (c.val - s.first))).val :=
          le_val_ofNat (by omega) (by omega)
        rw [h] at hlow
        omega

/-- A small letter before `k` comes from itself and from its capital. -/
theorem lower_eq_iff {c small : CodePoint} (capital : CodePoint) (hsmall : small.val < 0x6b)
    (hcapital : capital.val + 0x20 = small.val) (hself : small.lower = small)
    (hlower : capital.lower = small) :
    c.val ≠ 0x130 ∧ c.lower = small ↔ c = small ∨ c = capital := by
  constructor
  · rintro ⟨hdotted, h⟩
    rcases lower_eq_cases hsmall h with h | h | ⟨-, -, h⟩
    · exact absurd h hdotted
    · exact .inl h
    · exact .inr (ext_val (by omega))
  · rintro (rfl | rfl)
    · exact ⟨by omega, hself⟩
    · exact ⟨by omega, hlower⟩

/-- What stands before the letters comes from itself alone. -/
theorem lower_eq_iff_eq {c x : CodePoint} (hx : x.val < 0x61) (hself : x.lower = x) :
    c.val ≠ 0x130 ∧ c.lower = x ↔ c = x := by
  constructor
  · rintro ⟨hdotted, h⟩
    rcases lower_eq_cases (by omega) h with h | h | ⟨hfirst, -, h⟩
    · exact absurd h hdotted
    · exact h
    · omega
  · rintro rfl
    exact ⟨by omega, hself⟩

end CodePoint

namespace Text

/-- A code point before `k` at the start of a lowered text. What stands behind an `i` has to be of
the same kind, or the `i` and the dot behind it could be one code point. -/
theorem cons_prefix_lowerAfter_cons {x c : CodePoint} {p before rest : Text} (hx : x.val < 0x6b)
    (hp : x = 'i' → ∃ y ∈ p.head?, y.val < 0x6b) :
    x :: p <+: lowerAfter before (c :: rest) ↔
      (c.val ≠ 0x130 ∧ c.lower = x) ∧ p <+: lowerAfter (c :: before) rest := by
  rw [lowerAfter]
  split
  · rename_i hdotted
    rw [beq_iff_eq] at hdotted
    refine iff_of_false (fun h => ?_) fun h => h.1.1 hdotted
    obtain ⟨hi, htail⟩ := List.cons_prefix_cons.mp h
    obtain ⟨y, hy, hlow⟩ := hp hi
    obtain ⟨p, rfl⟩ := List.head?_eq_some_iff.mp hy
    rw [(List.cons_prefix_cons.mp htail).1] at hlow
    exact absurd hlow (by decide)
  · rename_i hdotted
    rw [beq_iff_eq] at hdotted
    split
    · rename_i hsigma
      rw [beq_iff_eq] at hsigma
      obtain rfl : c = CodePoint.ofNat 0x3a3 := CodePoint.ext_val hsigma
      have hne (y : CodePoint) (hy : 0x6b ≤ y.val) : x ≠ y := fun h =>
        Nat.not_lt.mpr hy (h ▸ hx)
      refine iff_of_false (fun h => ?_) fun h => hne (CodePoint.ofNat 0x3c3) (by decide) ?_
      · split at h
        · exact hne _ (by decide) (List.cons_prefix_cons.mp h).1
        · exact hne _ (by decide) (List.cons_prefix_cons.mp h).1
      · rw [← h.1.2]
        decide
    · rw [List.singleton_append, List.cons_prefix_cons, eq_comm (a := x)]
      exact and_congr_left fun _ => (and_iff_right hdotted).symm

end Text

end VirtualShell
