import VirtualShell.Decimal.Binary64
/-
  The shortest decimal that reads back.

  All reals in an interval around a number round to it. For 1, 2, … 17 digits the
  two neighbours of the number on that decimal grid are tried; the first grid with
  a hit wins, of two hits the nearer, and from the middle the even one. Should no
  grid have a hit, every digit of the number is given, which reads back for sure.
-/

namespace VirtualShell

/-- The decimal `digits · 10^exponent`. -/
structure Decimal where
  digits : Nat
  exponent : Int
  deriving DecidableEq, Repr

namespace Decimal

/-- A positive number together with the interval that rounds to it, as whole
multiples of a common unit; the unit is `num / den`. -/
structure Target where
  low : Nat
  value : Nat
  high : Nat
  /-- Whether the ends of the interval round to the number too. -/
  closed : Bool
  num : Nat
  den : Nat

/-- The interval around `significand · 2^exponent`. Below a power of two the next
number is only half as far away. -/
def Target.ofParts (significand : Nat) (exponent : Int) : Target :=
  let narrow := significand == Nat.pow 2 52 && exponent > -1074
  { low := 4 * significand - (if narrow then 1 else 2)
    value := 4 * significand
    high := 4 * significand + 2
    closed := significand % 2 == 0
    num := Nat.pow 2 (exponent - 2).toNat
    den := Nat.pow 2 (2 - exponent).toNat }

/-- Whether `digits · 10^exponent` rounds to the number. -/
def Target.contains (t : Target) (d : Decimal) : Bool :=
  let x := d.digits * Nat.pow 10 d.exponent.toNat * t.den
  let unit := t.num * Nat.pow 10 (-d.exponent).toNat
  if t.closed then t.low * unit ≤ x && x ≤ t.high * unit
  else t.low * unit < x && x < t.high * unit

/-- The exponent of the first digit: the `e` with `10^e ≤ value < 10^(e + 1)`. -/
def Target.magnitude (t : Target) : Int :=
  let num := t.value * t.num
  if t.den ≤ num then ((Nat.toDigits 10 (num / t.den)).length : Int) - 1
  else -((Nat.toDigits 10 ((t.den - 1) / num)).length : Int)

/-- The best decimal of `count` digits that rounds to the number, if there is one. -/
def Target.withDigits? (t : Target) (count : Nat) : Option Decimal :=
  let e := t.magnitude + 1 - count
  let num := t.value * t.num * Nat.pow 10 (-e).toNat
  let den := t.den * Nat.pow 10 e.toNat
  let below : Decimal := ⟨num / den, e⟩
  let above : Decimal := ⟨num / den + 1, e⟩
  let r := num % den
  match t.contains below, t.contains above with
  | true, true =>
    if 2 * r < den || (2 * r == den && below.digits % 2 == 0) then some below else some above
  | true, false => some below
  | false, true => some above
  | false, false => none

/-- The number `significand · 2^exponent` with all its digits. -/
def exact (significand : Nat) (exponent : Int) : Decimal :=
  if 0 ≤ exponent then ⟨significand * Nat.pow 2 exponent.toNat, 0⟩
  else ⟨significand * Nat.pow 5 (-exponent).toNat, exponent⟩

/-- The shortest decimal that rounds to `significand · 2^exponent`. -/
def shortest (significand : Nat) (exponent : Int) : Decimal :=
  let t := Target.ofParts significand exponent
  ((List.range 17).findSome? fun n => t.withDigits? (n + 1)).getD (exact significand exponent)

end Decimal

end VirtualShell
