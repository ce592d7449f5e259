import VirtualShell.Text.Case
/-
  Comparing code points without regard to case.

  Two code points count as equal when their lower-case forms are equal or belong to one
  family: lower-case forms that share an upper case, like the long s and the plain one.
-/

namespace VirtualShell

/-- How case counts when a pattern is matched. -/
inductive Fold where
  /-- Case counts. -/
  | exact
  /-- The case of ASCII letters does not count. -/
  | ascii
  /-- No case counts. -/
  | unicode
  deriving DecidableEq, Repr

/-- Lower-case forms that share an upper case. -/
def caseFamilies : List (List Nat) := [
  [0x69, 0x131], [0x73, 0x17f], [0xb5, 0x3bc], [0x345, 0x3b9, 0x1fbe], [0x390, 0x1fd3],
  [0x3b0, 0x1fe3], [0x3b2, 0x3d0], [0x3b5, 0x3f5], [0x3b8, 0x3d1], [0x3ba, 0x3f0],
  [0x3c0, 0x3d6], [0x3c1, 0x3f1], [0x3c2, 0x3c3], [0x3c6, 0x3d5], [0x432, 0x1c80],
  [0x434, 0x1c81], [0x43e, 0x1c82], [0x441, 0x1c83], [0x442, 0x1c84, 0x1c85],
  [0x44a, 0x1c86], [0x463, 0x1c87], [0xa64b, 0x1c88], [0x1e61, 0x1e9b], [0xfb05, 0xfb06]]

/-- A lower-case form and the others of its family. -/
def caseFamily (n : Nat) : List Nat := (caseFamilies.find? (·.contains n)).getD [n]

/-- Whether a number lies between two others. -/
def liesIn (low high n : Nat) : Bool := low ≤ n && n ≤ high

/-- Whether a code point of the stretch lies between two numbers. -/
def CaseStretch.meets (low high : Nat) (s : CaseStretch) : Bool :=
  let first := s.first + (low - s.first + (s.distance - 1)) / s.distance * s.distance
  first ≤ high && first ≤ s.last

/-- Whether a code point between two numbers has the lower case numbered `n`. -/
def lowersFrom (low high n : Nat) : Bool :=
  liesIn low high n || (n == 0x69 && liesIn low high 0x130) ||
    lowerStretches.any fun s =>
      let u := s.first + (n - s.target)
      s.target ≤ n && liesIn low high u && u ≤ s.last && (n - s.target) % s.distance == 0

namespace Fold

/-- The form in which code points are compared. -/
def apply (fold : Fold) (c : CodePoint) : CodePoint :=
  match fold with
  | exact => c
  | ascii => if 65 ≤ c.val && c.val ≤ 90 then CodePoint.ofNat (c.val + 32) else c
  | unicode => c.lower

/-- Whether two code points count as equal. -/
def same (fold : Fold) (a b : CodePoint) : Bool :=
  match fold with
  | unicode => (caseFamily a.lower.val).contains b.lower.val
  | _ => fold.apply a == fold.apply b

/-- Whether a code point between two numbers counts as equal to `c`. -/
def sameWithin (fold : Fold) (low high : Nat) (c : CodePoint) : Bool :=
  match fold with
  | exact => liesIn low high c.val
  | ascii =>
    let n := (fold.apply c).val
    liesIn low high n || (liesIn 97 122 n && liesIn low high (n - 32))
  | unicode => (caseFamily c.lower.val).any (lowersFrom low high)

/-- Whether a code point between two numbers has forms that differ in case. -/
def changesWithin (fold : Fold) (low high : Nat) : Bool :=
  match fold with
  | exact => false
  | ascii => (low ≤ 90 && 65 ≤ high) || (low ≤ 122 && 97 ≤ high)
  | unicode =>
    liesIn low high 0x130 || lowerStretches.any (CaseStretch.meets low high)
      || upperStretches.any (CaseStretch.meets low high)

end Fold

end VirtualShell
