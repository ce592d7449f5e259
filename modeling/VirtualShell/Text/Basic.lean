/-
  Text: a sequence of code points.

  Everything the shell reads, stores and prints is a `Text`. Lengths, padding,
  wrapping and sorting all go by code point, so a list of code points is the
  whole story; there is no second unit to keep in step with it.
-/

namespace VirtualShell

/-- A Unicode code point. Surrogates count: an escape in a stored snapshot can
name one on its own, and such text is kept, compared and sorted like any other. -/
structure CodePoint where
  val : Nat
  isValid : val < 0x110000
  deriving DecidableEq, Repr

/-- Text is compared, measured and cut by code point. -/
abbrev Text := List CodePoint

namespace CodePoint

/-- The code point of a character. -/
def ofChar (c : Char) : CodePoint :=
  ⟨c.val.toNat, by
    have h := c.valid
    unfold UInt32.isValidChar Nat.isValidChar at h
    omega⟩

instance : Coe Char CodePoint := ⟨ofChar⟩

/-- The code point numbered `n`, or the replacement character past the last one. -/
def ofNat (n : Nat) : CodePoint :=
  if h : n < 0x110000 then ⟨n, h⟩ else ⟨0xFFFD, by decide⟩

/-- Half of a surrogate pair: a code point that no encoding form can carry alone. -/
def isSurrogate (c : CodePoint) : Bool := 0xD800 ≤ c.val && c.val ≤ 0xDFFF

/-- Whether the code point lies in one of the closed ranges, which ascend: past a range
that starts above the code point none is looked at. -/
def within (c : CodePoint) : List (Nat × Nat) → Bool
  | [] => false
  | r :: more => if c.val < r.1 then false else c.val ≤ r.2 || c.within more

/-- The character of a code point; a surrogate shows as the replacement character. -/
def toChar (c : CodePoint) : Char :=
  if c.isSurrogate then '\uFFFD' else Char.ofNat c.val

/-- The value of a decimal digit among `0` to `9`. -/
def asciiDigit? (c : CodePoint) : Option Nat :=
  if 48 ≤ c.val && c.val ≤ 57 then some (c.val - 48) else none

/-- One of `0` to `9`. -/
def isAsciiDigit (c : CodePoint) : Bool := 48 ≤ c.val && c.val ≤ 57

/-- One of `a` to `z` or `A` to `Z`. -/
def isAsciiLetter (c : CodePoint) : Bool :=
  (65 ≤ c.val && c.val ≤ 90) || (97 ≤ c.val && c.val ≤ 122)

/-- The value of a hexadecimal digit in either case. -/
def hexDigit? (c : CodePoint) : Option Nat :=
  if 48 ≤ c.val && c.val ≤ 57 then some (c.val - 48)
  else if 65 ≤ c.val && c.val ≤ 70 then some (c.val - 55)
  else if 97 ≤ c.val && c.val ≤ 102 then some (c.val - 87)
  else none

end CodePoint

namespace Text

/-- The code points of a string. -/
def ofString (s : String) : Text := s.toList.map CodePoint.ofChar

instance : Coe String Text := ⟨ofString⟩

/-- The string that shows a text; a lone surrogate shows as the replacement character. -/
def toString (t : Text) : String := String.ofList (t.map CodePoint.toChar)

/-- Order by code point, a proper beginning first. -/
def le : Text → Text → Bool
  | [], _ => true
  | _ :: _, [] => false
  | a :: s, b :: t => a.val < b.val || (a.val == b.val && le s t)

/-- Sorted by code point. -/
def sorted (ts : List Text) : List Text := ts.mergeSort le

/-- A number in decimal. -/
def ofNat (n : Nat) : Text := (Nat.toDigits 10 n).map CodePoint.ofChar

/-- An integer in decimal, with a minus sign below zero. -/
def ofInt : Int → Text
  | .ofNat n => ofNat n
  | .negSucc n => '-' :: ofNat (n + 1)

/-- A number in lower-case hexadecimal, with zeros in front up to the given width. -/
def hex (width n : Nat) : Text :=
  let digits := (Nat.toDigits 16 n).map CodePoint.ofChar
  List.replicate (width - digits.length) (CodePoint.ofChar '0') ++ digits

/-- The number that a run of decimal digits spells. -/
def natOfDigits (digits : List Nat) : Nat := digits.foldl (fun n d => n * 10 + d) 0

/-- Spaces are added on the right until the text is `width` long. -/
def padRight (width : Nat) (t : Text) : Text :=
  t ++ List.replicate (width - t.length) (CodePoint.ofChar ' ')

end Text

end VirtualShell
