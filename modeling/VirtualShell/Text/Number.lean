import VirtualShell.Text.Digit
import VirtualShell.Text.Split
/-
  Integers as people write them: decimal digits of any script, perhaps with a sign in
  front, with single underscores between digits and with white space around.
-/

namespace VirtualShell.Text

/-- The most digits that a written integer may have. -/
def digitLimit : Nat := 4300

/-- White space around a written integer: in ASCII the space and the controls from tab to
carriage return, past ASCII all that is blank. -/
def isNumberSpace (c : CodePoint) : Bool :=
  c.val == 0x20 || (0x9 ≤ c.val && c.val ≤ 0xd) || (0x7f < c.val && c.isBlank)

/-- The digits of an unsigned integer. -/
def digits? (t : Text) : Option (List Nat) := do
  let groups ← (Text.splitOn '_' t).mapM fun group =>
    if group = [] then none else group.mapM CodePoint.digit?
  return groups.flatten

/-- The integer that a text spells, if it spells one within the limit. -/
def integer? (t : Text) : Option Int := do
  let t := ((t.dropWhile isNumberSpace).reverse.dropWhile isNumberSpace).reverse
  let (negative, t) := match t with
    | c :: rest => if c = '-' then (true, rest) else if c = '+' then (false, rest) else (false, t)
    | [] => (false, t)
  let digits ← digits? t
  if digits.length > digitLimit then none
  let n := Text.natOfDigits digits
  return if negative then -(n : Int) else n

end VirtualShell.Text
