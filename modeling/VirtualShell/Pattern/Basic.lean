import VirtualShell.Pattern.Fold
import VirtualShell.Text.Blank
import VirtualShell.Text.Digit
import VirtualShell.Text.Word
/-
  Patterns: what a search looks for in a line.

  The letters, anchors and sets of a pattern carry with them the options that hold
  where they stand, so a pattern means the same wherever it is used. `width` gives the
  least and the greatest number of code points that a pattern can take in.
-/

namespace VirtualShell

/-- The options that hold in a part of a pattern. -/
structure PatternOptions where
  ignoreCase : Bool := false
  multiLine : Bool := false
  dotAll : Bool := false
  verbose : Bool := false
  ascii : Bool := false
  deriving DecidableEq, Repr

/-- How code points are compared under the options. -/
def PatternOptions.fold (o : PatternOptions) : Fold :=
  if o.ignoreCase then if o.ascii then .ascii else .unicode else .exact

/-- A kind of code point with a name. -/
inductive CharClass where
  | digit
  | space
  | word
  deriving DecidableEq, Repr

/-- Whether a code point is of the kind, in ASCII or in all of Unicode. -/
def CharClass.contains (ascii : Bool) (c : CodePoint) : CharClass → Bool
  | digit => if ascii then c.isAsciiDigit else c.isDigit
  | space => if ascii then (0x9 ≤ c.val && c.val ≤ 0xd) || c.val == 0x20 else c.isBlank
  | word => if ascii then c.isAsciiWord else c.isWord

/-- One part of a set of code points. -/
inductive SetItem where
  | single (c : CodePoint)
  | range (low high : CodePoint)
  | kind (k : CharClass) (negated : Bool)
  deriving DecidableEq, Repr

/-- The last code point of the first plane. -/
def firstPlaneEnd : Nat := 0xFFFF

/-- Whether case makes a difference to the part. Past the first plane it is taken to. -/
def SetItem.minds (fold : Fold) : SetItem → Bool
  | single c => firstPlaneEnd < c.val || fold.changesWithin c.val c.val
  | range low high => firstPlaneEnd < high.val || fold.changesWithin low.val high.val
  | kind _ _ => false

/-- Whether a code point belongs to the part. Folding is thorough on the first plane
only: past it a code point that stands alone is compared with the folded one as it is,
and a range is tested for the folded one and its upper case. -/
def SetItem.contains (o : PatternOptions) (c : CodePoint) : SetItem → Bool
  | single d =>
    if o.ignoreCase && firstPlaneEnd < d.val then o.fold.apply c == d else o.fold.same d c
  | range low high =>
    if o.ignoreCase then
      o.fold.sameWithin low.val (min high.val firstPlaneEnd) c ||
        (firstPlaneEnd < high.val &&
          (liesIn low.val high.val (o.fold.apply c).val ||
            liesIn low.val high.val (o.fold.apply c).upper.val))
    else liesIn low.val high.val c.val
  | kind k negated => (k.contains o.ascii (o.fold.apply c)) != negated

/-- A place in a line that takes in nothing. -/
inductive Anchor where
  | lineStart
  | lineEnd
  | textStart
  | textEnd
  | wordEdge
  | notWordEdge
  deriving DecidableEq, Repr

/-- Which of the possible numbers of repetitions is preferred. -/
inductive Greed where
  /-- As many as possible. -/
  | greedy
  /-- As few as possible. -/
  | lazy
  /-- As many as possible, and no other number afterwards. -/
  | possessive
  deriving DecidableEq, Repr

/-- The least and the greatest number of code points that a pattern can take in. -/
abbrev PatternWidth := Nat × Nat

/-- A pattern. -/
inductive Pattern where
  | empty
  | anyChar (o : PatternOptions)
  | letter (o : PatternOptions) (c : CodePoint)
  /-- One code point in one of the parts, or in none of them. -/
  | set (o : PatternOptions) (items : List SetItem) (negated : Bool)
  /-- One code point other than the given one. -/
  | otherThan (o : PatternOptions) (c : CodePoint)
  | anchor (o : PatternOptions) (a : Anchor)
  | seq (first second : Pattern)
  | alt (first second : Pattern)
  | repeats (greed : Greed) (least : Nat) (most : Option Nat) (body : Pattern)
  | group (index : Nat) (body : Pattern)
  | atomic (body : Pattern)
  | lookAhead (negated : Bool) (body : Pattern)
  | lookBehind (negated : Bool) (body : Pattern)
  | backReference (o : PatternOptions) (index : Nat) (width : PatternWidth)
  | ifGroup (index : Nat) (yes no : Pattern)
  deriving DecidableEq

namespace PatternWidth

/-- The greatest number of code points that is told apart from no bound at all. -/
def limit : Nat := 4294967295

/-- The width within the limit, which a least number never reaches. -/
def capped (w : PatternWidth) : PatternWidth := (min w.1 (limit - 1), min w.2 limit)

/-- Two widths one after the other. -/
def add (a b : PatternWidth) : PatternWidth := capped (a.1 + b.1, a.2 + b.2)

/-- The width of either of two. -/
def either (a b : PatternWidth) : PatternWidth := (min a.1 b.1, max a.2 b.2)

/-- The width of a repetition. -/
def times (least : Nat) (most : Option Nat) (a : PatternWidth) : PatternWidth :=
  capped (a.1 * least, a.2 * most.getD limit)

end PatternWidth

namespace Pattern

/-- A set of code points, compared exactly if case makes no difference to any part. -/
def ofSet (o : PatternOptions) (items : List SetItem) (negated : Bool) : Pattern :=
  .set { o with ignoreCase := o.ignoreCase && items.any (SetItem.minds o.fold) } items negated

/-- The patterns one after the other. -/
def ofList : List Pattern → Pattern
  | [] => .empty
  | [p] => p
  | p :: q :: more => .seq p (ofList (q :: more))

/-- The patterns as alternatives, the first one preferred. -/
def ofAlternatives : List Pattern → Pattern
  | [] => .empty
  | [p] => p
  | p :: q :: more => .alt p (ofAlternatives (q :: more))

/-- The number of code points that the pattern takes in. -/
def width : Pattern → PatternWidth
  | empty => (0, 0)
  | anyChar _ => (1, 1)
  | letter _ _ => (1, 1)
  | set _ _ _ => (1, 1)
  | otherThan _ _ => (1, 1)
  | anchor _ _ => (0, 0)
  | seq a b => a.width.add b.width
  | alt a b => a.width.either b.width
  | repeats _ least most body => body.width.times least most
  | group _ body => body.width
  | atomic body => body.width
  | lookAhead _ _ => (0, 0)
  | lookBehind _ _ => (0, 0)
  | backReference _ _ w => w
  | ifGroup _ yes no => yes.width.either no.width

end Pattern

end VirtualShell
