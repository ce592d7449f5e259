import VirtualShell.Text.CharacterName.Alphabets
import VirtualShell.Text.CharacterName.Symbols
import VirtualShell.Text.CharacterName.EastAsian
import VirtualShell.Text.CharacterName.Ancient
import VirtualShell.Text.CharacterName.Notation
import VirtualShell.Text.CharacterName.Aliases
import VirtualShell.Text.Split
/-
  Characters by name, as in version 14 of the Unicode character database.

  A listed name counts in upper or lower case. Unified ideographs are named by their
  numbers and Hangul syllables by their parts; of those names the case counts.
-/

namespace VirtualShell.CharacterName

/-- A line of the lists of names: the names of neighbouring code points. -/
structure Line where
  /-- The code point that the first ending belongs to. -/
  start : Nat
  /-- The beginning that the names share. -/
  beginning : Text
  endings : List Text
  deriving DecidableEq, Repr

/-- The number that hexadecimal digits spell; none if there is another sign. -/
def hexValue? (t : Text) : Option Nat :=
  (t.mapM CodePoint.hexDigit?).map (·.foldl (fun n d => n * 16 + d) 0)

/-- A line as it is written in a list. -/
def Line.ofText? (t : Text) : Option Line := do
  let (start, names) ← Text.cut ' ' t
  let (beginning, endings) ← Text.cut '|' names
  return ⟨← hexValue? start, beginning, Text.splitOn '|' endings⟩

/-- The code point that a line gives a name to. -/
def Line.find? (name : Text) (line : Line) : Option Nat :=
  if line.beginning.isPrefixOf name then
    (line.endings.idxOf? (name.drop line.beginning.length)).map (line.start + ·)
  else none

/-- The lists of names. -/
def lists : List String := [
  namesFrom0020, namesFrom0400, namesFrom0800, namesFrom0C00, namesFrom1000, namesFrom1400,
  namesFrom1800, namesFrom1C00, namesFrom2000, namesFrom2400, namesFrom2800, namesFrom2C00,
  namesFrom3000, namesFromA000, namesFromA400, namesFromA800, namesFromFB00, namesFromFC00,
  namesFrom10000, namesFrom10800, namesFrom11000, namesFrom12000, namesFrom13000,
  namesFrom14400, namesFrom18800, namesFrom1CF00, namesFrom1D400, namesFrom1E000,
  namesFrom1F000, namesFrom1F400, namesFrom1F800, namesFromE0001, aliasNames]

/-- The code point that a list gives a name to. -/
def inList? (name : Text) (list : String) : Option Nat :=
  (list.splitOn "\n").findSome? fun line =>
    (Line.ofText? (Text.ofString line)).bind (Line.find? name)

/-- Code points whose names end in their numbers: the first, the last, and how the
names begin. -/
def numbered : List (Nat × Nat × Text) := [
  (0xF900, 0xFA6D, "CJK COMPATIBILITY IDEOGRAPH-"),
  (0xFA70, 0xFAD9, "CJK COMPATIBILITY IDEOGRAPH-"),
  (0x2F800, 0x2FA1D, "CJK COMPATIBILITY IDEOGRAPH-"),
  (0x18B00, 0x18CD5, "KHITAN SMALL SCRIPT CHARACTER-"),
  (0x1B170, 0x1B2FB, "NUSHU CHARACTER-")]

/-- An ASCII letter as a capital. -/
def capital (c : CodePoint) : CodePoint :=
  if 97 ≤ c.val && c.val ≤ 122 then CodePoint.ofNat (c.val - 32) else c

/-- The code point of a range that a name ending in its number belongs to. -/
def inRange? (name : Text) (range : Nat × Nat × Text) : Option Nat := do
  let (first, last, beginning) := range
  if !beginning.isPrefixOf name then none
  let digits := name.drop beginning.length
  let n ← hexValue? digits
  if first ≤ n && n ≤ last && digits == (Text.hex 4 n).map capital then some n else none

/-- The unified ideographs. -/
def ideographRanges : List (Nat × Nat) := [
  (0x3400, 0x4DBF), (0x4E00, 0x9FFF), (0x20000, 0x2A6DF), (0x2A700, 0x2B738),
  (0x2B740, 0x2B81D), (0x2B820, 0x2CEA1), (0x2CEB0, 0x2EBE0), (0x30000, 0x3134A)]

/-- The unified ideograph of a number in four or five digits. -/
def ideograph? (digits : Text) : Option Nat := do
  if digits.any (fun c => 97 ≤ c.val) || (digits.length ≠ 4 && digits.length ≠ 5) then none
  let n ← hexValue? digits
  if ideographRanges.any fun r => r.1 ≤ n && n ≤ r.2 then some n else none

/-- How the first consonant of a Hangul syllable is written. -/
def leadingParts : List String := [
  "G", "GG", "N", "D", "DD", "R", "M", "B", "BB", "S", "SS", "", "J", "JJ", "C", "K", "T",
  "P", "H"]

/-- How the vowel of a Hangul syllable is written. -/
def vowelParts : List String := [
  "A", "AE", "YA", "YAE", "EO", "E", "YEO", "YE", "O", "WA", "WAE", "OE", "YO", "U", "WEO",
  "WE", "WI", "YU", "EU", "YI", "I"]

/-- How the last consonant of a Hangul syllable is written. -/
def trailingParts : List String := [
  "", "G", "GG", "GS", "N", "NJ", "NH", "D", "L", "LG", "LM", "LB", "LS", "LT", "LP", "LH",
  "M", "B", "BS", "S", "SS", "NG", "J", "C", "K", "T", "P", "H"]

/-- The longest of the parts that the text starts with, by its place among them, and the
rest of the text. -/
def longestPart (parts : List String) (t : Text) : Option (Nat × Text) :=
  let found := parts.zipIdx.filter fun part => (Text.ofString part.1).isPrefixOf t
  let best := found.foldl (fun best part =>
    if best.all fun b => b.1.length < part.1.length then some part else best) none
  best.map fun b => (b.2, t.drop b.1.length)

/-- The Hangul syllable that is written so. -/
def syllable? (t : Text) : Option Nat := do
  let (l, t) ← longestPart leadingParts t
  let (v, t) ← longestPart vowelParts t
  let (f, t) ← longestPart trailingParts t
  if t = [] then some (0xAC00 + (l * 21 + v) * 28 + f) else none

/-- The number of the code point of a name. -/
def number? (name : Text) : Option Nat :=
  match Text.afterBeginning? "HANGUL SYLLABLE " name with
  | some parts => syllable? parts
  | none => match Text.afterBeginning? "CJK UNIFIED IDEOGRAPH-" name with
    | some digits => ideograph? digits
    | none =>
      let name := name.map capital
      (lists.findSome? (inList? name)).or (numbered.findSome? (inRange? name))

end CharacterName

/-- The code point of a name. -/
def CodePoint.ofName? (name : Text) : Option CodePoint :=
  (CharacterName.number? name).map CodePoint.ofNat

end VirtualShell
