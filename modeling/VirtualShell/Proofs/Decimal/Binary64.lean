import Mathlib
import VirtualShell.Decimal.Binary64
/-
  A number is its bit pattern.

  Taking a number apart and putting the pattern together again gives the number back. There is
  one value that is no number, so a pattern is never needed to tell two of them apart.
-/

namespace VirtualShell.Binary64

open Float.Model (Format)
open Float.Model.UnpackedFloat

/-! ## The fields of a pattern -/

theorem toNat_unpackMantissa (b : BitVec Format.binary64.numBits) :
    (unpackMantissa b).toNat = b.toNat % 2 ^ 52 := by
  simp [unpackMantissa, BitVec.extractLsb, BitVec.extractLsb']

theorem toNat_unpackExponent (b : BitVec Format.binary64.numBits) :
    (unpackExponent b).toNat = b.toNat / 2 ^ 52 % 2 ^ 11 := by
  simp [unpackExponent, BitVec.extractLsb, BitVec.extractLsb', Nat.shiftRight_eq_div_pow]

theorem toNat_neg_one : (-BitVec.ofNat Format.binary64.exponentBits 1).toNat = 2047 := by decide

/-! ## Taking a number apart -/

/-- The parts that a finite number can have: 53 bits of significand at most, and fewer only
where the exponent is the lowest. -/
structure IsFinite (significand : Nat) (exponent : Int) : Prop where
  lt : significand < 2 ^ 53
  lowest : -1074 ≤ exponent
  highest : exponent ≤ 971
  full : exponent ≠ -1074 → 2 ^ 52 ≤ significand

/-- A number is its pattern cut into the sign and the rest. -/
theorem ofBits_of_toBits {x : Float} {bits : Nat} (h : x.toBits.toNat % 2 ^ 63 = bits) :
    ofBits (x.toBits.toNat / 2 ^ 63 == 1) bits = x := by
  have hlt : x.toBits.toNat < 2 ^ 64 := x.toBits.toNat_lt
  have hsum : (if (x.toBits.toNat / 2 ^ 63 == 1) = true then 2 ^ 63 else 0) + bits =
      x.toBits.toNat := by
    split
    · rename_i hs
      rw [beq_iff_eq] at hs
      omega
    · rename_i hs
      rw [beq_iff_eq] at hs
      omega
  rw [ofBits]
  simp only [Nat.pow_eq]
  rw [hsum, UInt64.ofNat_toNat, Float.ofBits_toBits]

theorem ofFloat_finite {x : Float} {negative : Bool} {significand : Nat} {exponent : Int}
    (h : ofFloat x = .finite negative significand exponent) :
    IsFinite significand exponent ∧
      ofBits negative ((exponent + 1074).toNat * 2 ^ 52 + significand) = x := by
  simp only [ofFloat, Nat.pow_eq] at h
  split at h
  · split at h <;> cases h
  rename_i htop
  split at h
  · rename_i hzero
    cases h
    refine ⟨⟨by omega, by omega, by omega, fun e => absurd rfl e⟩, ofBits_of_toBits ?_⟩
    omega
  · rename_i hzero
    cases h
    refine ⟨⟨by omega, by omega, by omega, fun _ => by omega⟩, ofBits_of_toBits ?_⟩
    omega

theorem ofFloat_infinite {x : Float} {negative : Bool} (h : ofFloat x = .infinite negative) :
    ofBits negative infinityBits = x := by
  simp only [ofFloat, Nat.pow_eq] at h
  split at h
  · split at h
    · cases h
      refine ofBits_of_toBits ?_
      rw [infinityBits, Nat.pow_eq]
      omega
    · cases h
  · split at h <;> cases h

theorem ofFloat_nan {x : Float} (h : ofFloat x = .nan) : notANumber = x := by
  have hexp := toNat_unpackExponent x.toModel.toBits.toBitVec
  have hmant := toNat_unpackMantissa x.toModel.toBits.toBitVec
  simp only [ofFloat, Nat.pow_eq] at h
  split at h
  · rename_i htop
    split at h
    · cases h
    · rename_i hfraction
      have hb : x.toModel.toBits.toBitVec = packedNaN Format.binary64 := by
        refine x.toModel.valid.eq_packedNaN (BitVec.eq_of_toNat_eq ?_) fun e => hfraction ?_
        · rw [hexp, toNat_neg_one]
          exact htop
        · rw [e] at hmant
          exact hmant.symm
      have hbits : x.toBits = 0x7FF8000000000000 := UInt64.toBitVec_inj.mp (hb.trans (by decide))
      rw [notANumber, ← hbits, Float.ofBits_toBits]
  · split at h <;> cases h

end VirtualShell.Binary64
