import Mathlib.Algebra.Group.Nat.Defs
import VirtualShell.Text.Basic
/-
  Numbers in decimal.

  A numeral is built digit by digit from the left: all digits but the last are the
  numeral of the tenth part. So its digits spell the number, it starts with no zero
  unless it is the numeral of zero, and different numbers have different numerals.
-/

namespace VirtualShell

namespace CodePoint

theorem ext_val {c d : CodePoint} (h : c.val = d.val) : c = d := by
  cases c
  cases d
  simp_all

/-- The digit with the value `d`. -/
def ofDigit (d : Nat) : CodePoint := ofChar (Nat.digitChar d)

theorem val_ofDigit {d : Nat} (h : d < 10) : (ofDigit d).val = 48 + d := by
  have : ∀ d : Fin 10, (ofDigit d).val = 48 + d := by decide
  exact this ⟨d, h⟩

theorem isAsciiDigit_ofDigit {d : Nat} (h : d < 10) : (ofDigit d).isAsciiDigit = true := by
  rw [isAsciiDigit, val_ofDigit h]
  simp
  omega

end CodePoint

namespace Text

theorem ofNat_eq_if (n : Nat) :
    ofNat n = if n < 10 then [CodePoint.ofDigit n]
      else ofNat (n / 10) ++ [CodePoint.ofDigit (n % 10)] := by
  rw [ofNat, Nat.toDigits_eq_if (by decide)]
  split
  · rfl
  · simp [ofNat, CodePoint.ofDigit]

/-- Induction on a number by its last digit. -/
theorem numeral_induction {motive : Nat → Prop} (digit : ∀ d, d < 10 → motive d)
    (more : ∀ n d, 0 < n → d < 10 → motive n → motive (n * 10 + d)) (n : Nat) : motive n := by
  induction n using Nat.strongRecOn with
  | ind n ih =>
    by_cases h : n < 10
    · exact digit n h
    · have hm := more (n / 10) (n % 10) (by omega) (by omega) (ih (n / 10) (by omega))
      rwa [show n / 10 * 10 + n % 10 = n by omega] at hm

theorem ofNat_of_lt {d : Nat} (h : d < 10) : ofNat d = [CodePoint.ofDigit d] := by
  rw [ofNat_eq_if, if_pos h]

theorem ofNat_mul_add {n d : Nat} (hn : 0 < n) (hd : d < 10) :
    ofNat (n * 10 + d) = ofNat n ++ [CodePoint.ofDigit d] := by
  rw [ofNat_eq_if, if_neg (by omega), show (n * 10 + d) / 10 = n by omega,
    show (n * 10 + d) % 10 = d by omega]

theorem ofNat_ne_nil (n : Nat) : ofNat n ≠ [] := by
  rw [ofNat_eq_if]
  split <;> simp

theorem isAsciiDigit_of_mem_ofNat {n : Nat} : ∀ c ∈ ofNat n, c.isAsciiDigit = true := by
  induction n using numeral_induction with
  | digit d hd =>
    intro c hc
    rw [ofNat_of_lt hd, List.mem_singleton] at hc
    rw [hc]
    exact CodePoint.isAsciiDigit_ofDigit hd
  | more n d hn hd ih =>
    intro c hc
    rw [ofNat_mul_add hn hd, List.mem_append, List.mem_singleton] at hc
    rcases hc with hc | rfl
    · exact ih c hc
    · exact CodePoint.isAsciiDigit_ofDigit hd

/-- The values of digits. -/
def digitValues (t : Text) : List Nat := t.map fun c => c.val - 48

theorem natOfDigits_append (digits more : List Nat) :
    natOfDigits (digits ++ more) = natOfDigits digits * 10 ^ more.length + natOfDigits more := by
  have fold : ∀ (more : List Nat) (n : Nat),
      more.foldl (fun n d => n * 10 + d) n = n * 10 ^ more.length + natOfDigits more := by
    intro more
    induction more with
    | nil => intro n; simp [natOfDigits]
    | cons d rest ih =>
      intro n
      rw [natOfDigits, List.foldl_cons, List.foldl_cons, ih, ih (0 * 10 + d), List.length_cons,
        Nat.pow_succ]
      grind
  rw [natOfDigits, List.foldl_append, fold]
  rfl

/-- The digits of a numeral spell its number. -/
theorem natOfDigits_ofNat (n : Nat) : natOfDigits (digitValues (ofNat n)) = n := by
  induction n using numeral_induction with
  | digit d hd => simp [ofNat_of_lt hd, digitValues, CodePoint.val_ofDigit hd, natOfDigits]
  | more n d hn hd ih =>
    rw [digitValues] at ih
    rw [ofNat_mul_add hn hd, digitValues, List.map_append, natOfDigits_append, ih]
    simp [CodePoint.val_ofDigit hd, natOfDigits]

theorem ofNat_injective {m n : Nat} (h : ofNat m = ofNat n) : m = n := by
  rw [← natOfDigits_ofNat m, h, natOfDigits_ofNat]

/-- The first digit of a positive number is not zero. -/
theorem head?_ofNat {n : Nat} (h : 0 < n) :
    ∃ d rest, ofNat n = CodePoint.ofDigit d :: rest ∧ 0 < d ∧ d < 10 := by
  induction n using numeral_induction with
  | digit d hd => exact ⟨d, [], ofNat_of_lt hd, h, hd⟩
  | more n d hn hd ih =>
    obtain ⟨e, rest, he, hpos, hlt⟩ := ih hn
    exact ⟨e, rest ++ [CodePoint.ofDigit d], by rw [ofNat_mul_add hn hd, he]; rfl, hpos, hlt⟩

end Text

end VirtualShell
