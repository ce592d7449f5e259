/-
  Floating-point numbers taken apart and put together.

  A finite `Float` is a sign, a significand and a power of two. `Binary64.ofFloat`
  reads the three off the bit pattern, and `nearest` goes the other way: it gives
  the number closest to a fraction, the one with the even significand when two are
  equally close. Both work in exact integers, so that what is written in decimal
  can be shown to read back as it was.
-/

namespace VirtualShell

/-- A floating-point number by its parts; a finite one is
`±significand · 2^exponent`. -/
inductive Binary64 where
  | nan
  | infinite (negative : Bool)
  | finite (negative : Bool) (significand : Nat) (exponent : Int)
  deriving DecidableEq, Repr

namespace Binary64

/-- The parts of a number, read off its bit pattern. -/
def ofFloat (x : Float) : Binary64 :=
  let bits := x.toBits.toNat
  let negative := bits / Nat.pow 2 63 == 1
  let exponent : Nat := bits / Nat.pow 2 52 % Nat.pow 2 11
  let fraction := bits % Nat.pow 2 52
  if exponent = 2047 then
    if fraction = 0 then infinite negative else nan
  else if exponent = 0 then finite negative fraction (-1074)
  else finite negative (Nat.pow 2 52 + fraction) ((exponent : Int) - 1075)

/-- The bit pattern of positive infinity; every finite pattern lies below it. -/
def infinityBits : Nat := 2047 * Nat.pow 2 52

/-- The number with the given sign whose pattern without the sign is `bits`. -/
def ofBits (negative : Bool) (bits : Nat) : Float :=
  Float.ofBits (UInt64.ofNat ((if negative then Nat.pow 2 63 else 0) + bits))

/-- A quotient rounded to the nearest integer, to the even one from the middle. -/
def roundDiv (num den : Nat) : Nat :=
  let q := num / den
  let r := num % den
  if den < 2 * r || (2 * r == den && q % 2 == 1) then q + 1 else q

/-- The power of two that leaves `num / den` a significand of 53 bits, or of fewer
where the exponent can go no lower. -/
def exponentFor (num den : Nat) : Int :=
  let guess : Int := (num.log2 : Int) - den.log2 - 53
  let short (e : Int) : Bool :=
    num * Nat.pow 2 (-e).toNat < den * Nat.pow 2 e.toNat * Nat.pow 2 53
  let e := if short guess then guess else guess + 1
  max e (-1074)

/-- The pattern, without the sign, of the number nearest to `num / den`. -/
def nearestBits (num den : Nat) : Nat :=
  if num = 0 then 0
  else
    let e := exponentFor num den
    let significand := roundDiv (num * Nat.pow 2 (-e).toNat) (den * Nat.pow 2 e.toNat)
    min ((e + 1074).toNat * Nat.pow 2 52 + significand) infinityBits

/-- The number nearest to `±num / den`. A fraction beyond the largest number gives
an infinity. -/
def nearest (negative : Bool) (num den : Nat) : Float := ofBits negative (nearestBits num den)

/-- Positive infinity. -/
def infinity : Float := ofBits false infinityBits

/-- Not a number. -/
def notANumber : Float := Float.ofBits 0x7FF8000000000000

/-- The number nearest to an integer; none if that is an infinity. -/
def ofInt? (n : Int) : Option Float :=
  let bits := nearestBits n.natAbs 1
  if bits = infinityBits then none else some (ofBits (n < 0) bits)

/-- The number nearest to a natural number. -/
def ofNat (n : Nat) : Float := nearest false n 1

/-- A number cut to an integer toward zero; none for an infinity or a NaN. -/
def truncate? (x : Float) : Option Int :=
  match ofFloat x with
  | finite negative significand exponent =>
    let size := significand * Nat.pow 2 exponent.toNat / Nat.pow 2 (-exponent).toNat
    some (if negative then -(size : Int) else size)
  | _ => none

end Binary64

end VirtualShell
