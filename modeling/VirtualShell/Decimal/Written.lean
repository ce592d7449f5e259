import VirtualShell.Text.Basic
import VirtualShell.Decimal.Shortest
/-
  How a floating-point number is written.

  The digits are the shortest that read back. The number stands in positional
  notation, always with a digit after the point, from 10^-4 up to below 10^16;
  outside that it has an exponent of two digits at least, with its sign. Only the
  names of the infinities and of the value that is no number differ from one use
  to another.
-/

namespace VirtualShell

/-- What the values that are not finite are called. -/
structure SpecialNames where
  infinity : Text
  notANumber : Text

namespace Decimal

/-- The digits without the zeros at the end, and how many digits there were. -/
def significantDigits (d : Decimal) : Text × Nat :=
  let all := Text.ofNat d.digits
  let kept := (all.reverse.dropWhile fun c : CodePoint => c == '0').reverse
  (kept, all.length)

/-- The text of the digits `ds`, given the exponent `e` of the first of them. -/
def layOut (ds : Text) (e : Int) : Text :=
  let zeros (n : Nat) : Text := List.replicate n (CodePoint.ofChar '0')
  if -4 ≤ e && e < 16 then
    if e < 0 then "0." ++ zeros (-e - 1).toNat ++ ds
    else
      let whole := e.toNat + 1
      let fraction := ds.drop whole
      let shownFraction : Text := if fraction = [] then "0" else fraction
      ds.take whole ++ zeros (whole - ds.length) ++ "." ++ shownFraction
  else
    let power := Text.ofNat e.natAbs
    let mark : Text := if e < 0 then "e-" else "e+"
    let fraction : Text := if ds.length ≤ 1 then [] else "." ++ ds.drop 1
    ds.take 1 ++ fraction ++ mark ++ zeros (2 - power.length) ++ power

/-- The text of a decimal that is not zero. -/
def written (d : Decimal) : Text :=
  let (ds, count) := d.significantDigits
  layOut ds (d.exponent + count - 1)

end Decimal

/-- The text of a floating-point number. -/
def writtenFloat (names : SpecialNames) (x : Float) : Text :=
  let signed (negative : Bool) (t : Text) : Text := if negative then "-" ++ t else t
  match Binary64.ofFloat x with
  | .nan => names.notANumber
  | .infinite negative => signed negative names.infinity
  | .finite negative significand exponent =>
    signed negative
      (if significand = 0 then "0.0" else (Decimal.shortest significand exponent).written)

/-- The text of a floating-point number inside a message. -/
def shownFloat (x : Float) : Text := writtenFloat ⟨"inf", "nan"⟩ x

end VirtualShell
