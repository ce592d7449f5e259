import VirtualShell.Pattern.Basic
/-
  Matching a pattern at a place in a line.

  Matching is by backtracking, with what is to come handed on as a function: a
  pattern offers the places where it can end in order of preference, and the first of
  them from which the rest succeeds is taken. A repetition that may go on for ever stops
  once a round has taken in nothing; that, and the length of the line, bounds the number
  of rounds.
-/

namespace VirtualShell

/-- What a group has taken in: the stretch of the line between two places. -/
structure Capture where
  group : Nat
  start : Nat
  stop : Nat
  deriving DecidableEq, Repr

/-- A place in a line, with what the groups have taken in on the way to it. -/
structure Place where
  /-- The number of code points before the place. -/
  index : Nat
  /-- The latest first. -/
  captures : List Capture := []
  deriving DecidableEq, Repr

/-- A line that is searched. -/
abbrev Line := Array CodePoint

namespace Place

/-- The code point before the place. -/
def before? (text : Line) (p : Place) : Option CodePoint :=
  if p.index = 0 then none else text[p.index - 1]?

/-- The code point after the place. -/
def after? (text : Line) (p : Place) : Option CodePoint := text[p.index]?

/-- What a group has taken in last; none if it has taken no part. -/
def capture? (group : Nat) (p : Place) : Option Capture :=
  p.captures.find? (·.group == group)

/-- The place, with a group that began at `start` ending there. -/
def close (group start : Nat) (p : Place) : Place :=
  { p with captures := ⟨group, start, p.index⟩ :: p.captures }

end Place

/-- Whether an anchor holds at a place. In an empty line no place is an edge of a word
and none is known not to be one. -/
def Anchor.holds (o : PatternOptions) (text : Line) (p : Place) : Anchor → Bool
  | lineStart => p.index == 0 || (o.multiLine && p.before? text == some (CodePoint.ofChar '\n'))
  | textStart => p.index == 0
  | textEnd => p.index == text.size
  | lineEnd =>
    p.index == text.size ||
      ((o.multiLine || p.index + 1 == text.size) && p.after? text == some (CodePoint.ofChar '\n'))
  | wordEdge => !text.isEmpty && edge
  | notWordEdge => !text.isEmpty && !edge
where
  /-- Whether exactly one of the neighbours is a word character. -/
  edge : Bool :=
    (p.before? text).any (CharClass.word.contains o.ascii) !=
      (p.after? text).any (CharClass.word.contains o.ascii)

/-- What is still to be matched from a place: the place where it ends, if it can. -/
abbrev Rest := Place → Option Place

namespace Pattern

/-- Whether the pattern always takes in exactly one code point, as its kind alone shows. -/
def isSingle : Pattern → Bool
  | anyChar _ => true
  | letter _ _ => true
  | set _ _ _ => true
  | otherThan _ _ => true
  | _ => false

/-- Whether a pattern for a single code point takes in the given one. -/
def accepts (c : CodePoint) : Pattern → Bool
  | anyChar o => o.dotAll || c != '\n'
  | letter o d => o.fold.same d c
  | set o items negated => items.any (SetItem.contains o c) != negated
  | otherThan o d => !o.fold.same d c
  | _ => false

/-- Takes in a single code point. -/
def one (text : Line) (single : Pattern) (p : Place) (rest : Rest) : Option Place :=
  if h : p.index < text.size then
    if single.accepts text[p.index] then rest { p with index := p.index + 1 } else none
  else none

/-- Where the code points from a place on end that a pattern takes in, at most the given
number of them. -/
def stopAlong (text : Line) (single : Pattern) : Nat → Nat → Nat
  | 0, i => i
  | n + 1, i =>
    if h : i < text.size then
      if single.accepts text[i] then stopAlong text single n (i + 1) else i
    else i

/-- The rest from the place that is `n` code points on, or else from a place nearer. -/
def nearer (p : Place) (rest : Rest) : Nat → Option Place
  | 0 => rest p
  | n + 1 => match rest { p with index := p.index + (n + 1) } with
    | some q => some q
    | none => nearer p rest n

/-- The rest from the place, or else from a place further on, at most `n` code points. -/
def further (rest : Rest) : Nat → Place → Option Place
  | 0, p => rest p
  | n + 1, p => match rest p with
    | some q => some q
    | none => further rest n { p with index := p.index + 1 }

/-- Repeats a single code point and then matches the rest. -/
def repeatSingle (text : Line) (single : Pattern) (greed : Greed) (least : Nat)
    (most : Option Nat) (p : Place) (rest : Rest) : Option Place :=
  let left := text.size - p.index
  let count := stopAlong text single (min (most.getD left) left) p.index - p.index
  if count < least then none
  else
    let first := { p with index := p.index + least }
    match greed with
    | .greedy => nearer first rest (count - least)
    | .lazy => further rest (count - least) first
    | .possessive => rest { p with index := p.index + count }

/-- A repetition: what one round of it matches, and how many rounds there are. -/
structure Rounds where
  round : Place → Rest → Option Place
  least : Nat
  most : Option Nat

/-- Whether another round may begin at a place, `count` being done: there are not too many
yet, and the latest round beyond the least number, if any, began elsewhere. -/
def Rounds.mayGoOn (rounds : Rounds) (count : Nat) (last : Option Nat) (i : Nat) : Bool :=
  (match rounds.most with
    | none => true
    | some most => count < most) &&
  (match last with
    | none => true
    | some j => i != j)

/-- Repeats as often as possible first. `count` rounds are done, and `last` is where the
latest round beyond the least number began. -/
def greedily (rounds : Rounds) (rest : Rest) : Nat → Nat → Option Nat → Place → Option Place
  | 0, _, _, _ => none
  | fuel + 1, count, last, p =>
    if count < rounds.least then
      rounds.round p fun q => greedily rounds rest fuel (count + 1) last q
    else if rounds.mayGoOn count last p.index then
      match rounds.round p fun q => greedily rounds rest fuel (count + 1) (some p.index) q with
      | some q => some q
      | none => rest p
    else rest p

/-- Repeats as rarely as possible first. -/
def lazily (rounds : Rounds) (rest : Rest) : Nat → Nat → Option Nat → Place → Option Place
  | 0, _, _, _ => none
  | fuel + 1, count, last, p =>
    if count < rounds.least then
      rounds.round p fun q => lazily rounds rest fuel (count + 1) last q
    else match rest p with
      | some q => some q
      | none =>
        if rounds.mayGoOn count last p.index then
          rounds.round p fun q => lazily rounds rest fuel (count + 1) (some p.index) q
        else none

/-- Repeats as often as possible and settles for that; the place where it ends. -/
def possessively (rounds : Rounds) : Nat → Nat → Option Nat → Place → Option Place
  | 0, _, _, _ => none
  | fuel + 1, count, last, p =>
    if count < rounds.least then
      match rounds.round p some with
      | some q => possessively rounds fuel (count + 1) last q
      | none => none
    else if rounds.mayGoOn count last p.index then
      match rounds.round p some with
      | some q => possessively rounds fuel (count + 1) (some p.index) q
      | none => some p
    else some p

/-- Whether the line goes on, `n` code points long, at one place as at another. -/
def sameRun (text : Line) (fold : Fold) : Nat → Nat → Nat → Bool
  | 0, _, _ => true
  | n + 1, i, j => match text[i]?, text[j]? with
    | some c, some d => fold.apply c == fold.apply d && sameRun text fold n (i + 1) (j + 1)
    | _, _ => false

/-- Takes in the same text as a group did. -/
def again (text : Line) (fold : Fold) (c : Capture) (p : Place) (rest : Rest) : Option Place :=
  if sameRun text fold (c.stop - c.start) c.start p.index then
    rest { p with index := p.index + (c.stop - c.start) }
  else none

/-- Matches the pattern at a place and then the rest. -/
def run (text : Line) : Pattern → Place → Rest → Option Place
  | empty, p, rest => rest p
  | anyChar o, p, rest => one text (anyChar o) p rest
  | letter o d, p, rest => one text (letter o d) p rest
  | set o items negated, p, rest => one text (set o items negated) p rest
  | otherThan o d, p, rest => one text (otherThan o d) p rest
  | anchor o a, p, rest => if a.holds o text p then rest p else none
  | seq a b, p, rest => run text a p fun p => run text b p rest
  | alt a b, p, rest => match run text a p rest with
    | some q => some q
    | none => run text b p rest
  | repeats greed least most body, p, rest =>
    if body.isSingle then repeatSingle text body greed least most p rest
    else
      let rounds : Rounds := ⟨run text body, least, most⟩
      let fuel := least + (text.size - p.index) + 2
      match greed with
      | .greedy => greedily rounds rest fuel 0 none p
      | .lazy => lazily rounds rest fuel 0 none p
      | .possessive => match possessively rounds fuel 0 none p with
        | some q => rest q
        | none => none
  | group index body, p, rest => run text body p fun q => rest (q.close index p.index)
  | atomic body, p, rest => match run text body p some with
    | some q => rest q
    | none => none
  | lookAhead negated body, p, rest => match run text body p some with
    | some q => if negated then none else rest { p with captures := q.captures }
    | none => if negated then rest p else none
  | lookBehind negated body, p, rest =>
    let found := if body.width.1 ≤ p.index then
        run text body { p with index := p.index - body.width.1 } some
      else none
    match found with
    | some q => if negated then none else rest { p with captures := q.captures }
    | none => if negated then rest p else none
  | backReference o index _, p, rest => match p.capture? index with
    | some c => again text o.fold c p rest
    | none => none
  | ifGroup index yes no, p, rest =>
    if (p.capture? index).isSome then run text yes p rest else run text no p rest

/-- How many code points the pattern takes in at a place, if it matches there. With
`moving` set it has to take in something. -/
def matchAt (pattern : Pattern) (text : Line) (moving : Bool) (i : Nat) : Option Nat :=
  (run text pattern ⟨i, []⟩ fun q => if moving && q.index == i then none else some q).map
    fun q => q.index - i

end Pattern

end VirtualShell
