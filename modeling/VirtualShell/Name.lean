import VirtualShell.Text.Split
/-
  Names of files and directories.

  A copy whose name is taken gets a mark before the extension, ` (copy)` at first
  and then ` (copy 2)`, ` (copy 3)` and so on. The candidates all differ, so among
  one more of them than there are names taken there is a free one, and the search
  needs to look no further.
-/

namespace VirtualShell.Name

/-- A name that an entry of a directory may have. -/
def isValid (name : Text) : Bool :=
  !name.isEmpty && !name.contains (CodePoint.ofChar '/') && name ≠ "." && name ≠ ".."

/-- The name up to its last dot, and the rest with the dot; no dot, no rest. -/
def stemAndExtension (name : Text) : Text × Text :=
  match name.cutLast '.' with
  | some (stem, extension) => (stem, "." ++ extension)
  | none => (name, [])

/-- The mark of the copy numbered `k`. -/
def copyMark (k : Nat) : Text :=
  if k = 1 then " (copy)" else " (copy " ++ Text.ofNat k ++ ")"

/-- The candidate numbered `k`; the name itself has the number zero. -/
def candidate (name : Text) (k : Nat) : Text :=
  if k = 0 then name
  else
    let (stem, extension) := stemAndExtension name
    stem ++ copyMark k ++ extension

/-- The first candidate from `k` on that is not taken, or the last one looked at. -/
def firstFree (name : Text) (taken : List Text) : Nat → Nat → Text
  | 0, k => candidate name k
  | more + 1, k =>
    if taken.contains (candidate name k) then firstFree name taken more (k + 1)
    else candidate name k

/-- The name that a copy gets beside the names taken. -/
def forCopy (name : Text) (taken : List Text) : Text := firstFree name taken taken.length 0

end VirtualShell.Name
