import VirtualShell.Text.Split
import VirtualShell.Text.Utf8
/-
  Names on a disk and paths made of them.

  To the disk a name is bytes, and the text of a name is their UTF-8 form. A byte that
  belongs to no proper form shows as a surrogate, U+DC80 for the byte 80 and so on, and such
  a surrogate in a name stands for that byte; so two texts can be the same name. Other
  surrogates make no name.
-/

namespace VirtualShell

/-- Why a text is no name on a disk. -/
inductive FileNameFault where
  /-- There are no bytes for it. -/
  | noBytes
  /-- A NUL is in it. -/
  | hasNul
  deriving DecidableEq, Repr

namespace FileName

/-- The byte that a surrogate stands for. -/
def strayByte? (c : CodePoint) : Option UInt8 :=
  if 0xDC80 ≤ c.val && c.val ≤ 0xDCFF then some (UInt8.ofNat (c.val - 0xDC00)) else none

/-- The bytes of a name. -/
def bytes? : Text → Option (List UInt8)
  | [] => some []
  | c :: rest => do
    let first ← match strayByte? c with
      | some b => some [b]
      | none => c.utf8?
    return first ++ (← bytes? rest)

/-- The code point that bytes start with in proper form, and its number of bytes. -/
def leadingForm? (bytes : List UInt8) : Option (CodePoint × Nat) :=
  [1, 2, 3, 4].findSome? fun n => match Text.ofUtf8? (bytes.take n) with
    | some [c] => some (c, n)
    | _ => none

/-- The text that shows the bytes of a name. -/
def ofBytes : List UInt8 → Text
  | [] => []
  | b :: rest => match leadingForm? (b :: rest) with
    | some (c, n) => c :: ofBytes (rest.drop (n - 1))
    | none => CodePoint.ofNat (0xDC00 + b.toNat) :: ofBytes rest
  termination_by bytes => bytes.length
  decreasing_by
    · simp only [List.length_drop, List.length_cons]; omega
    · simp

/-- The text that shows the same name and is the only one to be used for it. -/
def canonical? (t : Text) : Option Text :=
  if t.any CodePoint.isSurrogate then (bytes? t).map ofBytes else some t

/-- The number of bytes of a name. -/
def size (name : Text) : Nat := ((bytes? name).map List.length).getD 0

end FileName

/-- A path on a disk: the names on the way down from the top, among which a point or nothing
stands for the folder itself and two points for the one it lies in. -/
abbrev DiskPath := List Text

namespace DiskPath

/-- The names in a text that are parted by slashes. Of empty ones only the last is kept,
which a slash at the end leaves. -/
def steps? (t : Text) : Except FileNameFault DiskPath :=
  match FileName.canonical? t with
  | none => .error .noBytes
  | some t =>
    if t.any (·.val == 0) then .error .hasNul
    else
      let names := Text.splitOn '/' t
      .ok (names.dropLast.filter (· ≠ []) ++ names.getLast?.toList)

/-- The path that a text leads to from a folder; one that starts with a slash leads from the
top. -/
def followed? (path : DiskPath) (t : Text) : Except FileNameFault DiskPath := do
  let steps ← steps? t
  return if t.startsWith "/" then steps else path ++ steps

/-- The number of bytes of the path, with a slash before each name. -/
def size (path : DiskPath) : Nat := path.foldl (fun n name => n + (FileName.size name + 1)) 0

/-- Whether the path is too long for a disk. -/
def isTooLong (path : DiskPath) : Bool := 4096 ≤ path.size

end DiskPath

end VirtualShell
