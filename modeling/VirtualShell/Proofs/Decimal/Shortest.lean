import VirtualShell.Proofs.Decimal.Rounding
/-
  The decimal that is written reads back.

  Of the shortest decimal only one thing matters here: it lies in the interval around the
  number, either because the test said so or because it is the number with all its digits.
  Reading takes the value of a decimal and nothing else about it, so any other way to put
  down the same value reads back as well.
-/

namespace VirtualShell.Decimal

open Binary64 (IsFinite Rounds)

/-- The fraction that a decimal stands for. -/
def value (d : Decimal) : ℚ := d.digits * 10 ^ d.exponent

/-! ## The test -/

theorem div_unit_eq {num den digits : Nat} {exponent e : ℤ}
    (hn : num = Nat.pow 2 (exponent - 2).toNat) (hd : den = Nat.pow 2 (2 - exponent).toNat) :
    ((digits * Nat.pow 10 e.toNat * den : Nat) : ℚ) / ((num * Nat.pow 10 (-e).toNat : Nat) : ℚ) =
      4 * ((digits : ℚ) * 10 ^ e / 2 ^ exponent) := by
  have htwo := pow_toNat_div_pow_toNat 2 (exponent - 2)
  have hquarter : (2 : ℚ) ^ (exponent - 2) = 2 ^ exponent / 4 := by
    rw [zpow_sub₀ two_ne_zero]
    norm_num
  have hneg : -(exponent - 2) = 2 - exponent := by ring
  rw [hquarter, hneg] at htwo
  subst hn hd
  rw [← pow_toNat_div_pow_toNat 10 e]
  simp only [Nat.pow_eq]
  push_cast
  have hinv : (2 : ℚ) ^ (2 - exponent).toNat / 2 ^ (exponent - 2).toNat = 4 / 2 ^ exponent := by
    rw [← inv_div, htwo, inv_div]
  calc (digits : ℚ) * 10 ^ e.toNat * 2 ^ (2 - exponent).toNat /
        (2 ^ (exponent - 2).toNat * 10 ^ (-e).toNat)
      = digits * (10 ^ e.toNat / 10 ^ (-e).toNat) *
          (2 ^ (2 - exponent).toNat / 2 ^ (exponent - 2).toNat) := by
        field_simp
    _ = 4 * (digits * (10 ^ e.toNat / 10 ^ (-e).toNat) / 2 ^ exponent) := by
        rw [hinv]
        ring

theorem unit_pos (exponent e : ℤ) :
    0 < Nat.pow 2 (exponent - 2).toNat * Nat.pow 10 (-e).toNat :=
  Nat.mul_pos (Nat.pow_pos (by decide)) (Nat.pow_pos (by decide))

theorem mul_unit_lt_iff (k : Nat) (exponent : ℤ) (d : Decimal) :
    k * (Nat.pow 2 (exponent - 2).toNat * Nat.pow 10 (-d.exponent).toNat) <
        d.digits * Nat.pow 10 d.exponent.toNat * Nat.pow 2 (2 - exponent).toNat ↔
      (k : ℚ) < 4 * (d.value / 2 ^ exponent) := by
  have hunit : (0 : ℚ) < _ := Nat.cast_pos.mpr (unit_pos exponent d.exponent)
  rw [← Nat.cast_lt (α := ℚ), Nat.cast_mul, ← lt_div_iff₀ hunit, div_unit_eq rfl rfl, value]

theorem lt_mul_unit_iff (k : Nat) (exponent : ℤ) (d : Decimal) :
    d.digits * Nat.pow 10 d.exponent.toNat * Nat.pow 2 (2 - exponent).toNat <
        k * (Nat.pow 2 (exponent - 2).toNat * Nat.pow 10 (-d.exponent).toNat) ↔
      4 * (d.value / 2 ^ exponent) < (k : ℚ) := by
  have hunit : (0 : ℚ) < _ := Nat.cast_pos.mpr (unit_pos exponent d.exponent)
  rw [← Nat.cast_lt (α := ℚ), Nat.cast_mul k, ← div_lt_iff₀ hunit, div_unit_eq rfl rfl, value]

/-- What passes the test lies in the interval. -/
theorem rounds_of_contains {significand : Nat} {exponent : ℤ} {d : Decimal}
    (hf : IsFinite significand exponent) (hs : 0 < significand)
    (h : (Target.ofParts significand exponent).contains d = true) :
    Rounds significand exponent d.value := by
  -- how far the interval goes down, in quarters of a unit
  obtain ⟨part, hpart, hnarrow⟩ : ∃ part : Nat,
      (if significand == Nat.pow 2 52 && exponent > -1074 then 1 else 2) = part ∧
        (part : ℚ) / 4 =
          if significand = 2 ^ 52 ∧ exponent ≠ -1074 then 1 / 4 else (1 / 2 : ℚ) := by
    have hlowest := hf.lowest
    refine ⟨_, rfl, ?_⟩
    by_cases hn : significand = 2 ^ 52 ∧ exponent ≠ -1074
    · rw [if_pos hn, if_pos (by simp [hn.1]; omega)]
      norm_num
    · rw [if_neg hn, if_neg (by simp; intro e; by_contra h'; exact hn ⟨e, by omega⟩)]
      norm_num
  have hsmall : part ≤ 4 * significand := by
    rw [← hpart]
    split <;> omega
  have hcast : ((4 * significand - part : Nat) : ℚ) = 4 * significand - part := by
    rw [Nat.cast_sub hsmall]
    push_cast
    rfl
  have hhigh : ((4 * significand + 2 : Nat) : ℚ) = 4 * significand + 2 := by push_cast; rfl
  simp only [Target.contains, Target.ofParts, hpart] at h
  split at h
  -- the test is strict for an odd significand only, as the interval is
  · rename_i heven
    rw [beq_iff_eq] at heven
    simp only [Bool.and_eq_true, decide_eq_true_eq, ← not_lt (α := Nat), mul_unit_lt_iff,
      lt_mul_unit_iff] at h
    rw [not_lt, not_lt, hcast, hhigh] at h
    refine ⟨?_, by linarith [h.2], fun hodd => by omega⟩
    rw [← hnarrow]
    linarith [h.1]
  · rename_i hodd
    simp only [Bool.and_eq_true, decide_eq_true_eq, mul_unit_lt_iff, lt_mul_unit_iff] at h
    rw [hcast, hhigh] at h
    have hne : ¬ (significand = 2 ^ 52 ∧ exponent ≠ -1074) := by
      rintro ⟨rfl, -⟩
      exact hodd rfl
    rw [if_neg hne] at hnarrow
    refine ⟨?_, by linarith [h.2], fun _ => ⟨by linarith [h.1], by linarith [h.2]⟩⟩
    rw [if_neg hne]
    linarith [h.1]

/-! ## The shortest decimal -/

theorem rounds_self (significand : Nat) (exponent : ℤ) :
    Rounds significand exponent ((significand : ℚ) * 2 ^ exponent) := by
  have hself : (significand : ℚ) * 2 ^ exponent / 2 ^ exponent = significand := by
    field_simp
  refine ⟨?_, ?_, fun _ => ⟨?_, ?_⟩⟩ <;> rw [hself]
  · split <;> linarith
  all_goals linarith

theorem value_exact (significand : Nat) (exponent : ℤ) :
    (exact significand exponent).value = significand * 2 ^ exponent := by
  rw [exact]
  split
  · rename_i h
    simp only [value, Nat.pow_eq, zpow_zero, mul_one]
    push_cast
    rw [← zpow_natCast, Int.toNat_of_nonneg h]
  · rename_i h
    have hten : (10 : ℚ) ^ exponent = 2 ^ exponent * 5 ^ exponent := by
      rw [← mul_zpow]
      norm_num
    have hfive : (5 : ℚ) ^ (-exponent).toNat * 5 ^ exponent = 1 := by
      rw [← zpow_natCast, Int.toNat_of_nonneg (by omega), ← zpow_add₀ (by norm_num)]
      simp
    simp only [value, Nat.pow_eq]
    push_cast
    rw [hten]
    calc (significand : ℚ) * 5 ^ (-exponent).toNat * (2 ^ exponent * 5 ^ exponent)
        = significand * 2 ^ exponent * (5 ^ (-exponent).toNat * 5 ^ exponent) := by ring
      _ = significand * 2 ^ exponent := by rw [hfive, mul_one]

theorem contains_of_withDigits? {t : Target} {count : Nat} {d : Decimal}
    (h : t.withDigits? count = some d) : t.contains d = true := by
  simp only [Target.withDigits?] at h
  split at h
  · rename_i hbelow habove
    split at h
    · cases h
      exact hbelow
    · cases h
      exact habove
  · rename_i hbelow _
    cases h
    exact hbelow
  · rename_i _ habove
    cases h
    exact habove
  · cases h

/-- The shortest decimal lies in the interval around the number. -/
theorem rounds_shortest {significand : Nat} {exponent : ℤ} (hf : IsFinite significand exponent)
    (hs : 0 < significand) :
    Rounds significand exponent (shortest significand exponent).value := by
  rw [shortest]
  cases hfind : (List.range 17).findSome? fun n =>
      (Target.ofParts significand exponent).withDigits? (n + 1) with
  | none =>
    rw [Option.getD_none, value_exact]
    exact rounds_self significand exponent
  | some d =>
    obtain ⟨n, -, hn⟩ := List.exists_of_findSome?_eq_some hfind
    exact rounds_of_contains hf hs (contains_of_withDigits? hn)

/-! ## Reading a decimal in the interval -/

theorem value_eq_div (d : Decimal) :
    d.value = ((d.digits * Nat.pow 10 d.exponent.toNat : Nat) : ℚ) /
      ((Nat.pow 10 (-d.exponent).toNat : Nat) : ℚ) := by
  rw [value, ← pow_toNat_div_pow_toNat 10 d.exponent]
  simp only [Nat.pow_eq]
  push_cast
  ring

theorem two_pow_lt_ten_pow : (2 : ℚ) ^ (1024 : ℤ) < 10 ^ (311 : ℤ) := by
  have h : (2 : ℕ) ^ 1024 < 10 ^ 311 := by decide +kernel
  exact_mod_cast h

theorem ten_pow_lt_two_pow : (10 : ℚ) ^ (-325 : ℤ) < 2 ^ (-1075 : ℤ) := by
  have h : (2 : ℕ) ^ 1075 < 10 ^ 325 := by decide +kernel
  rw [zpow_neg, zpow_neg]
  exact inv_strictAnti₀ (by positivity) (by exact_mod_cast h)

/-- What a number is read from lies between half the smallest number and the first power of two
past all numbers. -/
theorem value_bounds {significand : Nat} {exponent : ℤ} {q : ℚ}
    (hf : IsFinite significand exponent) (hs : 0 < significand)
    (h : Rounds significand exponent q) : 2 ^ (-1075 : ℤ) ≤ q ∧ q ≤ 2 ^ (1024 : ℤ) := by
  have hlow := h.low_half
  have hhigh := h.high
  have hone : (1 : ℚ) ≤ significand := by exact_mod_cast hs
  have hsig : (significand : ℚ) + 1 ≤ 2 ^ (53 : ℤ) := by exact_mod_cast hf.lt
  have hpow : (0 : ℚ) < 2 ^ exponent := by positivity
  rw [le_div_iff₀ hpow] at hlow
  rw [div_le_iff₀ hpow] at hhigh
  constructor
  · calc (2 : ℚ) ^ (-1075 : ℤ) ≤ 2 ^ (exponent - 1) :=
          zpow_le_zpow_right₀ (by norm_num) (by have := hf.lowest; omega)
      _ = 1 / 2 * 2 ^ exponent := by
          rw [zpow_sub_one₀ two_ne_zero]
          ring
      _ ≤ (significand - 1 / 2) * 2 ^ exponent := by
          gcongr
          linarith
      _ ≤ q := hlow
  · calc q ≤ (significand + 1 / 2) * 2 ^ exponent := hhigh
      _ ≤ 2 ^ (53 : ℤ) * 2 ^ (971 : ℤ) := by
          have hexp : (2 : ℚ) ^ exponent ≤ 2 ^ (971 : ℤ) :=
            zpow_le_zpow_right₀ (by norm_num) hf.highest
          gcongr
          linarith
      _ = 2 ^ (1024 : ℤ) := by
          rw [← zpow_add₀ two_ne_zero]
          norm_num

theorem exponent_le_of_value_le {d : Decimal} (hd : d.digits ≠ 0)
    (h : d.value ≤ 2 ^ (1024 : ℤ)) : d.exponent ≤ 310 := by
  by_contra hgt
  have hone : (1 : ℚ) ≤ d.digits := by exact_mod_cast Nat.pos_of_ne_zero hd
  have hle : (10 : ℚ) ^ (311 : ℤ) ≤ d.value :=
    calc (10 : ℚ) ^ (311 : ℤ) ≤ 10 ^ d.exponent :=
          zpow_le_zpow_right₀ (by norm_num) (by omega)
      _ ≤ d.digits * 10 ^ d.exponent := le_mul_of_one_le_left (by positivity) hone
  exact absurd (hle.trans h) (not_le.mpr two_pow_lt_ten_pow)

theorem le_length_of_le_value {d : Decimal} (h : 2 ^ (-1075 : ℤ) ≤ d.value) :
    -324 ≤ ((Nat.toDigits 10 d.digits).length : ℤ) + d.exponent := by
  by_contra hlt
  have hdigits : d.digits < 10 ^ (Nat.toDigits 10 d.digits).length :=
    (Nat.length_toDigits_le_iff (by decide) Nat.length_toDigits_pos).mp (le_refl _)
  generalize (Nat.toDigits 10 d.digits).length = n at hdigits hlt
  have hle : d.value ≤ 10 ^ (-325 : ℤ) :=
    calc (d.digits : ℚ) * 10 ^ d.exponent ≤ 10 ^ n * 10 ^ d.exponent := by
          gcongr
          exact_mod_cast hdigits.le
      _ = 10 ^ ((n : ℤ) + d.exponent) := by rw [zpow_add₀ (by norm_num), zpow_natCast]
      _ ≤ 10 ^ (-325 : ℤ) := zpow_le_zpow_right₀ (by norm_num) (by omega)
  exact absurd (h.trans hle) (not_le.mpr ten_pow_lt_two_pow)

/-- A decimal in the interval around a number is read as the number, by its value alone. -/
theorem toFloat_of_rounds {significand : Nat} {exponent : ℤ} {d : Decimal} (negative : Bool)
    (hf : IsFinite significand exponent) (hs : 0 < significand)
    (h : Rounds significand exponent d.value) :
    d.toFloat negative =
      Binary64.ofBits negative ((exponent + 1074).toNat * 2 ^ 52 + significand) := by
  obtain ⟨hlow, hhigh⟩ := value_bounds hf hs h
  have hdigits : d.digits ≠ 0 := by
    intro e
    rw [value, e, Nat.cast_zero, zero_mul] at hlow
    exact absurd hlow (not_le.mpr (by positivity))
  -- neither of the shortcuts for decimals out of range is taken
  have hexponent := exponent_le_of_value_le hdigits hhigh
  have hlength := le_length_of_le_value hlow
  have hden : Nat.pow 10 (-d.exponent).toNat ≠ 0 := (Nat.pow_pos (by decide)).ne'
  rw [value_eq_div] at h
  rw [toFloat, if_neg hdigits, if_neg (by omega), if_neg (by omega), Binary64.nearest,
    Binary64.nearestBits_of_rounds hf hs hden h]

end VirtualShell.Decimal
