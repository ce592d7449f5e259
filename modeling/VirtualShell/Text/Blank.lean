import VirtualShell.Text.Basic
/-
  White space, and the two things it is used for: trimming and splitting into
  words. Besides the spaces of Unicode the set holds the four separators U+001C
  to U+001F and the next-line control U+0085; zero-width spaces are not in it.
-/

namespace VirtualShell

/-- White space. -/
def CodePoint.isBlank (c : CodePoint) : Bool :=
  c.within [(0x9, 0xd), (0x1c, 0x20), (0x85, 0x85), (0xa0, 0xa0), (0x1680, 0x1680),
    (0x2000, 0x200a), (0x2028, 0x2029), (0x202f, 0x202f), (0x205f, 0x205f), (0x3000, 0x3000)]

namespace Text

/-- Without the white space at its start. -/
def trimLeft (t : Text) : Text := t.dropWhile CodePoint.isBlank

/-- Without the white space at its end. -/
def trimRight (t : Text) : Text := (t.reverse.dropWhile CodePoint.isBlank).reverse

/-- Without the white space at both ends. -/
def trim (t : Text) : Text := trimRight (trimLeft t)

/-- Nothing but white space. -/
def isBlank (t : Text) : Bool := t.all CodePoint.isBlank

end Text

end VirtualShell
