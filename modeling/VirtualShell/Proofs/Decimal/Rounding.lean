import VirtualShell.Decimal.Reading
import VirtualShell.Proofs.Decimal.Binary64
/-
  What rounds to a number.

  The decimals that are written lie in an interval around the number, and whatever lies in that
  interval is read as the number. Both the test whether a decimal lies there and the rounding
  work in whole numbers; here both are compared with the fractions that they stand for.
-/

namespace VirtualShell

/-! ## Powers with the sign of the exponent split off -/

theorem pow_toNat_div_pow_toNat (b : ℚ) (e : ℤ) :
    b ^ e.toNat / b ^ (-e).toNat = b ^ e := by
  rcases Int.le_total 0 e with h | h
  · rw [Int.toNat_of_nonpos (by omega : -e ≤ 0), pow_zero, div_one, ← zpow_natCast,
      Int.toNat_of_nonneg h]
  · rw [Int.toNat_of_nonpos h, pow_zero, one_div, ← zpow_natCast,
      Int.toNat_of_nonneg (by omega : 0 ≤ -e), zpow_neg, inv_inv]

namespace Binary64

theorem scaled_div (num den : Nat) (e : ℤ) :
    ((num * Nat.pow 2 (-e).toNat : Nat) : ℚ) / ((den * Nat.pow 2 e.toNat : Nat) : ℚ) =
      (num : ℚ) / den / 2 ^ e := by
  rw [← pow_toNat_div_pow_toNat 2 e]
  simp only [Nat.pow_eq, Nat.cast_mul, Nat.cast_pow, Nat.cast_ofNat]
  field_simp

/-- A quotient is rounded to the integer it is no more than half away from; exactly half away
only an even one will do. -/
theorem roundDiv_eq {num den k : Nat} (hd : 0 < den) (hlow : 2 * k * den ≤ 2 * num + den)
    (hhigh : 2 * num ≤ (2 * k + 1) * den)
    (hodd : k % 2 = 1 → 2 * k * den < 2 * num + den ∧ 2 * num < (2 * k + 1) * den) :
    roundDiv num den = k := by
  have hsplit := Nat.div_add_mod num den
  have hr := Nat.mod_lt num hd
  rw [roundDiv]
  generalize num / den = q at hsplit ⊢
  generalize num % den = r at hsplit hr ⊢
  rw [Nat.mul_comm] at hsplit
  have hle : q ≤ k := by
    have : 2 * q * den ≤ (2 * k + 1) * den := by
      rw [Nat.mul_assoc]
      omega
    have := Nat.le_of_mul_le_mul_right this hd
    omega
  have hge : k ≤ q + 1 := by
    have : 2 * k * den < (2 * q + 3) * den := by
      rw [Nat.add_mul (2 * q), Nat.mul_assoc 2 q]
      omega
    have := Nat.lt_of_mul_lt_mul_right this
    omega
  rw [Nat.add_mul, Nat.mul_assoc] at hhigh hodd
  rw [Nat.mul_assoc] at hlow
  -- the integer is the whole part or the one above it
  rcases Nat.eq_or_lt_of_le hle with rfl | hlt
  · rw [if_neg]
    simp only [Bool.or_eq_true, Bool.and_eq_true, decide_eq_true_eq, beq_iff_eq]
    rintro (h | ⟨h, h'⟩)
    · omega
    · have := (hodd h').2
      omega
  · have hk : k = q + 1 := by omega
    subst hk
    rw [Nat.add_mul] at hlow hodd
    rw [if_pos]
    simp only [Bool.or_eq_true, Bool.and_eq_true, decide_eq_true_eq, beq_iff_eq]
    by_cases h : den < 2 * r
    · exact Or.inl h
    · refine Or.inr ⟨by omega, ?_⟩
      by_contra h'
      have := (hodd (by omega)).1
      omega

theorem roundDiv_eq_of_near {num den k : Nat} (hd : 0 < den) (hlow : (k : ℚ) - 1 / 2 ≤ num / den)
    (hhigh : (num : ℚ) / den ≤ k + 1 / 2)
    (hodd : k % 2 = 1 → (k : ℚ) - 1 / 2 < num / den ∧ (num : ℚ) / den < k + 1 / 2) :
    roundDiv num den = k := by
  have hden : (0 : ℚ) < den := by exact_mod_cast hd
  refine roundDiv_eq hd ?_ ?_ fun hk => ⟨?_, ?_⟩
  · rw [le_div_iff₀ hden] at hlow
    have : (2 * k * den : ℚ) ≤ 2 * num + den := by linarith
    exact_mod_cast this
  · rw [div_le_iff₀ hden] at hhigh
    have : (2 * num : ℚ) ≤ (2 * k + 1) * den := by linarith
    exact_mod_cast this
  · have h := (hodd hk).1
    rw [lt_div_iff₀ hden] at h
    have : (2 * k * den : ℚ) < 2 * num + den := by linarith
    exact_mod_cast this
  · have h := (hodd hk).2
    rw [div_lt_iff₀ hden] at h
    have : (2 * num : ℚ) < (2 * k + 1) * den := by linarith
    exact_mod_cast this

/-! ## The exponent of a fraction -/

theorem lt_scaled_iff (num den k : Nat) (hd : 0 < den) (e : ℤ) :
    num * Nat.pow 2 (-e).toNat < den * Nat.pow 2 e.toNat * k ↔ (num : ℚ) / den / 2 ^ e < k := by
  have hpos : 0 < den * Nat.pow 2 e.toNat := Nat.mul_pos hd (Nat.pow_pos (by omega))
  have hposq : (0 : ℚ) < ((den * Nat.pow 2 e.toNat : Nat) : ℚ) := by exact_mod_cast hpos
  rw [← scaled_div, div_lt_iff₀ hposq, ← Nat.cast_mul, Nat.cast_lt, Nat.mul_comm k]

/-- A fraction lies within a factor of two of the quotient of the leading powers of two. -/
theorem div_bounds {num den : Nat} (hn : num ≠ 0) (hd : den ≠ 0) :
    (2 : ℚ) ^ ((num.log2 : ℤ) - den.log2 - 1) ≤ num / den ∧
      (num : ℚ) / den < 2 ^ ((num.log2 : ℤ) - den.log2 + 1) := by
  have hnl : (2 : ℚ) ^ num.log2 ≤ num := by exact_mod_cast Nat.log2_self_le hn
  have hnu : (num : ℚ) < 2 ^ (num.log2 + 1) := by exact_mod_cast Nat.lt_log2_self
  have hdl : (2 : ℚ) ^ den.log2 ≤ den := by exact_mod_cast Nat.log2_self_le hd
  have hdu : (den : ℚ) < 2 ^ (den.log2 + 1) := by exact_mod_cast Nat.lt_log2_self
  have hden : (0 : ℚ) < den := by exact_mod_cast Nat.pos_of_ne_zero hd
  constructor
  · rw [le_div_iff₀ hden]
    calc (2 : ℚ) ^ ((num.log2 : ℤ) - den.log2 - 1) * den
        ≤ 2 ^ ((num.log2 : ℤ) - den.log2 - 1) * 2 ^ (den.log2 + 1) := by gcongr
      _ = 2 ^ num.log2 := by
          rw [← zpow_natCast, ← zpow_add₀ two_ne_zero, ← zpow_natCast]
          congr 1
          push_cast
          ring
      _ ≤ num := hnl
  · rw [div_lt_iff₀ hden]
    calc (num : ℚ) < 2 ^ (num.log2 + 1) := hnu
      _ = 2 ^ ((num.log2 : ℤ) - den.log2 + 1) * 2 ^ den.log2 := by
          rw [← zpow_natCast, ← zpow_natCast, ← zpow_add₀ two_ne_zero]
          congr 1
          push_cast
          ring
      _ ≤ 2 ^ ((num.log2 : ℤ) - den.log2 + 1) * den := by gcongr

/-- What the exponent of a fraction is chosen for: the significand has at most 53 bits, and
has 53 unless the exponent can go no lower. -/
theorem exponentFor_spec {num den : Nat} (hn : num ≠ 0) (hd : den ≠ 0) :
    -1074 ≤ exponentFor num den ∧ (num : ℚ) / den / 2 ^ exponentFor num den < 2 ^ 53 ∧
      (exponentFor num den ≠ -1074 → 2 ^ 52 ≤ (num : ℚ) / den / 2 ^ exponentFor num den) := by
  obtain ⟨hlow, hhigh⟩ := div_bounds hn hd
  obtain ⟨e, he, hlt, hle⟩ : ∃ e : ℤ, exponentFor num den = max e (-1074) ∧
      (num : ℚ) / den / 2 ^ e < 2 ^ 53 ∧ 2 ^ 52 ≤ (num : ℚ) / den / 2 ^ e := by
    have hshort := lt_scaled_iff num den (Nat.pow 2 53) (Nat.pos_of_ne_zero hd)
      ((num.log2 : ℤ) - den.log2 - 53)
    simp only [exponentFor]
    generalize hg : (num.log2 : ℤ) - den.log2 - 53 = g at hshort ⊢
    have hcast : ((Nat.pow 2 53 : Nat) : ℚ) = 2 ^ 53 := by norm_num
    rw [hcast] at hshort
    -- the first guess may be one too low, and never more
    by_cases h : (num : ℚ) / den / 2 ^ g < 2 ^ 53
    · refine ⟨g, by rw [if_pos (by simpa using hshort.mpr h)], h, ?_⟩
      have he : ((52 : ℕ) : ℤ) + g = (num.log2 : ℤ) - den.log2 - 1 := by omega
      rw [le_div_iff₀ (by positivity), ← zpow_natCast, ← zpow_add₀ two_ne_zero, he]
      exact hlow
    · refine ⟨g + 1, by rw [if_neg (by simpa using fun h' => h (hshort.mp h'))], ?_, ?_⟩
      · have he : ((53 : ℕ) : ℤ) + (g + 1) = (num.log2 : ℤ) - den.log2 + 1 := by omega
        rw [div_lt_iff₀ (by positivity), ← zpow_natCast, ← zpow_add₀ two_ne_zero, he]
        exact hhigh
      · rw [not_lt, le_div_iff₀ (by positivity)] at h
        rw [le_div_iff₀ (by positivity), zpow_add_one₀ two_ne_zero]
        linarith
  rw [he]
  rcases le_total (-1074) e with h | h
  · rw [max_eq_left h]
    exact ⟨h, hlt, fun _ => hle⟩
  · rw [max_eq_right h]
    refine ⟨le_refl _, lt_of_le_of_lt ?_ hlt, fun e => absurd rfl e⟩
    have hpow : (2 : ℚ) ^ e ≤ 2 ^ (-1074 : ℤ) := zpow_le_zpow_right₀ (by norm_num) h
    gcongr

/-! ## The interval around a number -/

/-- The fractions that round to `significand · 2^exponent`: those no more than half a unit of the
last place away from it. Below a power of two the next number is half as far, and so is the end
of the interval. The ends belong to an even significand only. -/
structure Rounds (significand : Nat) (exponent : ℤ) (q : ℚ) : Prop where
  low : (significand : ℚ) - (if significand = 2 ^ 52 ∧ exponent ≠ -1074 then 1 / 4 else 1 / 2) ≤
    q / 2 ^ exponent
  high : q / 2 ^ exponent ≤ significand + 1 / 2
  inside : significand % 2 = 1 →
    (significand : ℚ) - 1 / 2 < q / 2 ^ exponent ∧ q / 2 ^ exponent < significand + 1 / 2

theorem Rounds.low_half {significand : Nat} {exponent : ℤ} {q : ℚ}
    (h : Rounds significand exponent q) : (significand : ℚ) - 1 / 2 ≤ q / 2 ^ exponent := by
  have := h.low
  split at this <;> linarith

/-- The exponent that is chosen for a fraction in the interval is that of the number, or just
below a power of two the next lower one. -/
theorem exponentFor_of_rounds {significand num den : Nat} {exponent : ℤ}
    (hf : IsFinite significand exponent) (hn : num ≠ 0) (hd : den ≠ 0)
    (h : Rounds significand exponent ((num : ℚ) / den)) :
    exponentFor num den = exponent ∨
      (exponentFor num den = exponent - 1 ∧ significand = 2 ^ 52 ∧ exponent ≠ -1074) := by
  obtain ⟨hlowest, hlt, hle⟩ := exponentFor_spec hn hd
  have hlow := h.low_half
  have hhigh := h.high
  have hsig : (significand : ℚ) + 1 ≤ 2 ^ 53 := by exact_mod_cast hf.lt
  generalize exponentFor num den = e at hlowest hlt hle ⊢
  generalize hq : (num : ℚ) / den = q at hlt hle hlow hhigh h
  have hscale : q / 2 ^ exponent = q / 2 ^ e * 2 ^ (e - exponent) := by
    rw [zpow_sub₀ two_ne_zero]
    field_simp
  rw [hscale] at hlow hhigh
  generalize hz : q / 2 ^ e = z at *
  have hzpos : 0 ≤ z := by
    rw [← hz, ← hq]
    positivity
  rcases lt_trichotomy e exponent with hbelow | heq | habove
  -- below: the significand must be the least full one, and two steps down is too far
  · have hne : exponent ≠ -1074 := by omega
    have hfull : (2 : ℚ) ^ 52 ≤ significand := by exact_mod_cast hf.full hne
    have hhalf : (2 : ℚ) ^ (e - exponent) ≤ 2 ^ (-1 : ℤ) :=
      zpow_le_zpow_right₀ (by norm_num) (by omega)
    have hprod : z * 2 ^ (e - exponent) ≤ z * 2 ^ (-1 : ℤ) := by gcongr
    rw [zpow_neg_one] at hprod
    have hpower : significand = 2 ^ 52 := by
      have hcast : (significand : ℚ) < 2 ^ 52 + 1 := by linarith
      have hle : significand < 2 ^ 52 + 1 := by exact_mod_cast hcast
      have := hf.full hne
      omega
    refine Or.inr ⟨?_, hpower, hne⟩
    by_contra hfar
    have hquarter : (2 : ℚ) ^ (e - exponent) ≤ 2 ^ (-2 : ℤ) :=
      zpow_le_zpow_right₀ (by norm_num) (by omega)
    have hprod : z * 2 ^ (e - exponent) ≤ z * 2 ^ (-2 : ℤ) := by gcongr
    have htwo : (2 : ℚ) ^ (-2 : ℤ) = 1 / 4 := by norm_num
    rw [htwo] at hprod
    linarith
  · exact Or.inl heq
  -- above: the significand of the fraction would be full, and so twice too large
  · have hdouble : (2 : ℚ) ^ (1 : ℤ) ≤ 2 ^ (e - exponent) :=
      zpow_le_zpow_right₀ (by norm_num) (by omega)
    have hprod : (2 : ℚ) ^ 52 * 2 ^ (1 : ℤ) ≤ z * 2 ^ (e - exponent) :=
      mul_le_mul (hle (by have := hf.lowest; omega)) hdouble (by positivity) hzpos
    rw [zpow_one] at hprod
    linarith

/-- Whatever lies in the interval around a number has the pattern of the number. -/
theorem nearestBits_of_rounds {significand num den : Nat} {exponent : ℤ}
    (hf : IsFinite significand exponent) (hs : 0 < significand) (hd : den ≠ 0)
    (h : Rounds significand exponent ((num : ℚ) / den)) :
    nearestBits num den = (exponent + 1074).toNat * 2 ^ 52 + significand := by
  have hn : num ≠ 0 := by
    rintro rfl
    have hlow := h.low_half
    have : (1 : ℚ) ≤ significand := by exact_mod_cast hs
    norm_num at hlow
    linarith
  have hpos : 0 < den * Nat.pow 2 (exponentFor num den).toNat :=
    Nat.mul_pos (Nat.pos_of_ne_zero hd) (Nat.pow_pos (by omega))
  have hlt := hf.lt
  have hlowest := hf.lowest
  have hhighest := hf.highest
  rw [nearestBits, if_neg hn]
  dsimp only
  rcases exponentFor_of_rounds hf hn hd h with he | ⟨he, hpower, hne⟩
  · have hround : roundDiv (num * Nat.pow 2 (-exponentFor num den).toNat)
        (den * Nat.pow 2 (exponentFor num den).toNat) = significand := by
      refine roundDiv_eq_of_near hpos ?_ ?_ ?_
      · rw [scaled_div, he]
        exact h.low_half
      · rw [scaled_div, he]
        exact h.high
      · rw [scaled_div, he]
        exact h.inside
    rw [hround, he, infinityBits]
    simp only [Nat.pow_eq]
    omega
  -- one exponent lower the significand rounds up to a power of two, which carries over
  · have hround : roundDiv (num * Nat.pow 2 (-exponentFor num den).toNat)
        (den * Nat.pow 2 (exponentFor num den).toNat) = 2 ^ 53 := by
      have hdouble : (num : ℚ) / den / 2 ^ (exponent - 1) = num / den / 2 ^ exponent * 2 := by
        rw [zpow_sub_one₀ two_ne_zero]
        field_simp
      have hlow := h.low
      have hhigh := (exponentFor_spec hn hd).2.1
      rw [if_pos ⟨hpower, hne⟩, hpower] at hlow
      rw [he, hdouble] at hhigh
      refine roundDiv_eq_of_near hpos ?_ ?_ (fun h => absurd h (by decide))
      · rw [scaled_div, he, hdouble]
        push_cast at hlow ⊢
        linarith
      · rw [scaled_div, he, hdouble]
        push_cast
        linarith
    rw [hround, he, infinityBits, hpower]
    simp only [Nat.pow_eq]
    omega

/-! ## Integers beyond all numbers -/

/-- Rounding reaches an even number from half a step below it on. -/
theorem le_roundDiv_iff {num unit k : Nat} (hu : 0 < unit) (hk : k % 2 = 0) (hpos : 0 < k) :
    k ≤ roundDiv num (2 * unit) ↔ (2 * k - 1) * unit ≤ num := by
  have hsplit := Nat.div_add_mod num (2 * unit)
  have hr := Nat.mod_lt num (show 0 < 2 * unit by omega)
  obtain ⟨j, rfl⟩ : ∃ j, k = j + 1 := ⟨k - 1, by omega⟩
  have hbound : (2 * (j + 1) - 1) * unit = 2 * unit * j + unit := by
    rw [show 2 * (j + 1) - 1 = 2 * j + 1 by omega]
    ring
  rw [roundDiv, hbound]
  generalize num / (2 * unit) = q at hsplit ⊢
  generalize num % (2 * unit) = r at hsplit hr ⊢
  rcases Nat.lt_trichotomy q j with hq | rfl | hq
  · have hmul : 2 * unit * (q + 1) ≤ 2 * unit * j := Nat.mul_le_mul_left _ hq
    rw [Nat.mul_succ] at hmul
    refine iff_of_false (fun h => ?_) (by omega)
    split at h <;> omega
  · have hodd : q % 2 = 1 := by omega
    rw [hodd]
    simp only [Bool.or_eq_true, decide_eq_true_eq, Bool.and_eq_true, beq_iff_eq, and_true]
    split <;> omega
  · have hmul : 2 * unit * (j + 1) ≤ 2 * unit * q := Nat.mul_le_mul_left _ hq
    rw [Nat.mul_succ] at hmul
    refine iff_of_true ?_ (by omega)
    split <;> omega

theorem roundDiv_le {num den k : Nat} (h : num < den * k) : roundDiv num den ≤ k := by
  have hq : num / den < k := Nat.div_lt_of_lt_mul h
  rw [roundDiv]
  split <;> omega

theorem le_roundDiv {num den k : Nat} (hd : 0 < den) (h : den * k ≤ num) :
    k ≤ roundDiv num den := by
  have hq : k ≤ num / den := (Nat.le_div_iff_mul_le hd).mpr (by rwa [Nat.mul_comm])
  rw [roundDiv]
  split <;> omega

/-- The least whole number that is rounded to no number: half a step beyond the largest. -/
def overflow : Nat := (2 ^ 54 - 1) * Nat.pow 2 970

/-- The significand before it is rounded, as a quotient of whole numbers. -/
theorem exponentFor_bounds {num den : Nat} (hn : num ≠ 0) (hd : den ≠ 0) :
    num * Nat.pow 2 (-exponentFor num den).toNat <
      den * Nat.pow 2 (exponentFor num den).toNat * 2 ^ 53 ∧
    (exponentFor num den ≠ -1074 → den * Nat.pow 2 (exponentFor num den).toNat * 2 ^ 52 ≤
      num * Nat.pow 2 (-exponentFor num den).toNat) := by
  obtain ⟨-, hhigh, hlow⟩ := exponentFor_spec hn hd
  have hpos := Nat.pos_of_ne_zero hd
  constructor
  · rw [lt_scaled_iff num den (2 ^ 53) hpos]
    exact_mod_cast hhigh
  · intro he
    rw [← Nat.not_lt, lt_scaled_iff num den (2 ^ 52) hpos, not_lt]
    exact_mod_cast hlow he

theorem nearestBits_eq_infinityBits_iff (num : Nat) :
    nearestBits num 1 = infinityBits ↔ overflow ≤ num := by
  by_cases hn : num = 0
  · rw [nearestBits, if_pos hn, hn]
    exact iff_of_false (by decide +kernel) (by decide +kernel)
  obtain ⟨hlt, hge⟩ := exponentFor_bounds hn one_ne_zero
  rw [nearestBits, if_neg hn]
  dsimp only
  rw [min_eq_right_iff]
  generalize exponentFor num 1 = e at hlt hge ⊢
  simp only [infinityBits, Nat.pow_eq, one_mul] at hlt hge ⊢
  obtain ⟨top, htop⟩ : ∃ top, top = 970 := ⟨_, rfl⟩
  rw [overflow, ← htop, Nat.pow_eq]
  have hpos : 0 < 2 ^ top := Nat.two_pow_pos top
  -- below the last exponent all is finite, above it nothing is, and at it the rounding decides
  rcases lt_trichotomy e 971 with he | he | he
  · have hsmall := roundDiv_le hlt
    have hpower : 2 ^ e.toNat ≤ 2 ^ top := Nat.pow_le_pow_right Nat.two_pos (by omega)
    have hself : num ≤ num * 2 ^ (-e).toNat := Nat.le_mul_of_pos_right _ (Nat.two_pow_pos _)
    exact iff_of_false (by omega) (by omega)
  · have hreach : 2 ^ 53 ≤ roundDiv num (2 * 2 ^ top) ↔ _ :=
      le_roundDiv_iff hpos (by decide) (by decide)
    have hpower : 2 ^ e.toNat = 2 * 2 ^ top := by
      rw [show e.toNat = top + 1 by omega, Nat.pow_succ']
    rw [hpower, show (-e).toNat = 0 by omega, Nat.pow_zero, Nat.mul_one]
    omega
  · have hlarge := le_roundDiv (Nat.two_pow_pos e.toNat) (hge (by omega))
    refine iff_of_true (by omega) ?_
    have hmany := hge (by omega)
    have hpower : 2 ^ top * 4 ≤ 2 ^ e.toNat := by
      obtain ⟨k, hk⟩ : ∃ k, e.toNat = top + 2 + k := ⟨e.toNat - (top + 2), by omega⟩
      rw [hk, Nat.pow_add, Nat.pow_add]
      exact Nat.le_mul_of_pos_right _ (Nat.two_pow_pos k)
    rw [show (-e).toNat = 0 by omega, Nat.pow_zero, Nat.mul_one] at hmany
    omega

/-- Which integers have no number. -/
theorem ofInt?_eq_none_iff {n : Int} : ofInt? n = none ↔ overflow ≤ n.natAbs := by
  rw [ofInt?, ← nearestBits_eq_infinityBits_iff]
  split
  · rename_i h
    exact iff_of_true rfl h
  · rename_i h
    exact iff_of_false (Option.some_ne_none _) h

end Binary64

end VirtualShell
