import VirtualShell.Text.Blank
import VirtualShell.Text.Digit
import VirtualShell.Decimal.Shortest
/-
  Reading decimal numbers.

  `Decimal.toFloat` rounds a decimal correctly, however many digits and however
  large an exponent it has. `readLooseFloat` is the lenient reader for time stamps that
  are stored as text: white space around the number, digits of any script, single
  underscores between digits, a missing whole or fractional part, and the names of
  the infinities and of the value that is no number in either case.
-/

namespace VirtualShell

namespace Decimal

/-- The floating-point number nearest to `±digits · 10^exponent`. Far beyond the
largest number the answer is an infinity, far below the smallest it is zero. -/
def toFloat (negative : Bool) (d : Decimal) : Float :=
  if d.digits = 0 then Binary64.ofBits negative 0
  else if d.exponent > 310 then Binary64.ofBits negative Binary64.infinityBits
  else if ((Nat.toDigits 10 d.digits).length : Int) + d.exponent < -324 then
    Binary64.ofBits negative 0
  else Binary64.nearest negative (d.digits * Nat.pow 10 d.exponent.toNat) (Nat.pow 10 (-d.exponent).toNat)

end Decimal

/-- The digits at the start of a text, and the rest. -/
def takeDigits (t : Text) : List Nat × Text :=
  (t.takeWhile CodePoint.isAsciiDigit |>.map fun c => c.val - 48,
   t.dropWhile CodePoint.isAsciiDigit)

/-- A sign at the start of a text, and the rest. -/
def takeSign : Text → Bool × Text
  | [] => (false, [])
  | c :: rest =>
    if c = '-' then (true, rest) else if c = '+' then (false, rest) else (false, c :: rest)

/-- The exponent part at the start of a text, and the rest; there is none if no
digit follows the mark. -/
def takeExponent (t : Text) : Option Int × Text :=
  match t with
  | c :: more =>
    if c = 'e' || c = 'E' then
      let (negative, unsigned) := takeSign more
      match takeDigits unsigned with
      | ([], _) => (none, t)
      | (ds, rest) =>
        let n := Text.natOfDigits ds
        (some (if negative then -(n : Int) else n), rest)
    else (none, t)
  | [] => (none, t)

/-- The fraction digits at the start of a text, point included, and the rest. -/
def takeFraction (t : Text) : List Nat × Text :=
  match t with
  | c :: more => if c = '.' then takeDigits more else ([], t)
  | [] => ([], t)

/-- The decimal with the given digits before and after the point. -/
def Decimal.ofDigits (whole fraction : List Nat) (exponent : Int) : Decimal :=
  ⟨Text.natOfDigits (whole ++ fraction), exponent - fraction.length⟩

/-- A name in either case at the start of a text. -/
def isNamed (name : String) (t : Text) : Bool :=
  t.map (fun c => if 65 ≤ c.val && c.val ≤ 90 then CodePoint.ofNat (c.val + 32) else c)
    == Text.ofString name

/-- A whole text as an unsigned number. -/
def readUnsigned (negative : Bool) (t : Text) : Option Float :=
  if isNamed "inf" t || isNamed "infinity" t then
    some (Binary64.ofBits negative Binary64.infinityBits)
  else if isNamed "nan" t then some Binary64.notANumber
  else
    let (whole, afterWhole) := takeDigits t
    let (fraction, afterFraction) := takeFraction afterWhole
    let (exponent, rest) := takeExponent afterFraction
    if whole = [] && fraction = [] then none
    else if rest ≠ [] then none
    else some ((Decimal.ofDigits whole fraction (exponent.getD 0)).toFloat negative)

/-- The text without its underscores, each of which must stand between two digits. -/
def dropUnderscores : Option CodePoint → Text → Option Text
  | previous, [] => if previous == some '_' then none else some []
  | previous, c :: rest =>
    if c = '_' then
      if previous.any CodePoint.isAsciiDigit then dropUnderscores (some c) rest else none
    else if previous == some '_' && !c.isAsciiDigit then none
    else (dropUnderscores (some c) rest).map (c :: ·)

/-- Digits of any script as `0` to `9` and white space as spaces. A text of ASCII
characters alone is left as it is, and so is every ASCII character in another. -/
def withPlainDigits (t : Text) : Text :=
  if t.all (·.val < 0x80) then t
  else t.map fun c =>
    if c.val < 0x7f then c
    else if c.isBlank then ' '
    else match c.digit? with
      | some d => CodePoint.ofNat (48 + d)
      | none => '?'

/-- The white space that may surround a number. -/
def isPadding (c : CodePoint) : Bool := (0x9 ≤ c.val && c.val ≤ 0xd) || c.val == 0x20

/-- A whole text as a number, read leniently. -/
def readLooseFloat (t : Text) : Option Float := do
  let plain := withPlainDigits t
  let left := plain.dropWhile isPadding
  let inner := (left.reverse.dropWhile isPadding).reverse
  let (negative, unsigned) := takeSign (← dropUnderscores none inner)
  readUnsigned negative unsigned

end VirtualShell
