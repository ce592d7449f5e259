import VirtualShell.Pattern.Basic
import VirtualShell.Pattern.Fault
import VirtualShell.Text.CharacterName.Lookup
import VirtualShell.Text.Identifier
import VirtualShell.Text.Number
import VirtualShell.Entries
/-
  Reading patterns.

  The text is taken apart into tokens first: a backslash and what follows it are one
  token, everything else stands alone. The reader goes through the tokens once; what
  it knows on the way is a `Reading`. A backslash at the very end is reported as soon
  as the token before it has been taken.
-/

namespace VirtualShell.Pattern

/-- A token of a pattern and where it starts. -/
structure Token where
  chars : Text
  start : Nat
  deriving DecidableEq, Repr

/-- The tokens of a pattern from the given position on. -/
def tokensFrom (start : Nat) : Text → List Token
  | [] => []
  | c :: rest =>
    if c = '\\' then
      match rest with
      | [] => [⟨[c], start⟩]
      | d :: more => ⟨[c, d], start⟩ :: tokensFrom (start + 2) more
    else ⟨[c], start⟩ :: tokensFrom (start + 1) rest

/-- What is known while a pattern is being read. -/
structure Reading where
  rest : List Token
  /-- The length of the pattern. -/
  stop : Nat
  /-- The options turned on for the whole pattern. -/
  options : PatternOptions := {}
  /-- Whether Unicode was asked for, for the whole pattern. -/
  unicodeAsked : Bool := false
  /-- Whether repetitions are refused. -/
  template : Bool := false
  /-- The width of each group so far; none while the group is open. -/
  groups : List (Option PatternWidth) := []
  names : Entries Nat := []
  /-- The number of groups there were when the outermost look-behind began. -/
  lookBehindFrom : Option Nat := none
  /-- The groups that conditions name by number, and where. -/
  conditions : List (Nat × Nat) := []

/-- A step of the reader. -/
abbrev Read (α : Type) := StateT Reading (Except PatternFault) α

/-- The position of the next token. -/
def Reading.position (r : Reading) : Nat :=
  match r.rest with
  | t :: _ => t.start
  | [] => r.stop

/-- The position of the next token. -/
def position : Read Nat := return (← get).position

/-- Reports a cause at a position. -/
def failAt {α : Type} (cause : PatternCause) (position : Nat) : Read α :=
  throw (.malformed cause (some position))

/-- Reports a cause at a position so many code points before the next token. -/
def fail {α : Type} (cause : PatternCause) (back : Nat) : Read α := do
  failAt cause ((← position) - back)

/-- Reports a backslash that ends the pattern, if that is what comes next. -/
def checkNext : Read Unit := do
  let r ← get
  match r.rest with
  | [t] => if t.chars = "\\" then failAt .escapeAtEnd (r.stop - 1)
  | _ => return

/-- Takes the next token, if there is one. -/
def take : Read (Option Token) := do
  let r ← get
  match r.rest with
  | [] => return none
  | t :: rest =>
    modify fun r => { r with rest := rest }
    checkNext
    return some t

/-- The code points of the next token, which is not taken. -/
def peek : Read (Option Text) := return (← get).rest.head?.map (·.chars)

/-- Takes the next token if it is the given code point. -/
def accept (c : CodePoint) : Read Bool := do
  if (← peek) = some [c] then
    let _ ← take
    return true
  else return false

/-- Takes tokens, at most as many as given, while they are code points of a kind. -/
def takeWhileUpTo (kind : CodePoint → Bool) : Nat → Read Text
  | 0 => return []
  | n + 1 => do
    match ← peek with
    | some [c] =>
      if kind c then
        let _ ← take
        return c :: (← takeWhileUpTo kind n)
      else return []
    | _ => return []

/-- Takes a run of tokens of a kind. -/
def takeRun (kind : CodePoint → Bool) : Read Text := do
  takeWhileUpTo kind (← get).rest.length

/-- Takes tokens up to a terminator, which is taken too, after those taken already. -/
def takeUntilAfter (terminator : CodePoint) (what : Text) : Nat → Text → Read Text
  | 0, taken => return taken
  | n + 1, taken => do
    match ← take with
    | none =>
      if taken = [] then fail (.missingName what) 0
      else fail (.unterminatedName terminator) taken.length
    | some t =>
      if t.chars = [terminator] then
        if taken = [] then fail (.missingName what) 1 else return taken
      else takeUntilAfter terminator what n (taken ++ t.chars)

/-- Takes a name up to its terminator. -/
def takeName (terminator : CodePoint) (what : Text) : Read Text := do
  takeUntilAfter terminator what ((← get).rest.length + 1) []

/-- One of `0` to `7`. -/
def isOctal (c : CodePoint) : Bool := 48 ≤ c.val && c.val ≤ 55

/-- The number that octal digits spell. -/
def octalValue (t : Text) : Nat := t.foldl (fun n c => n * 8 + (c.val - 48)) 0

/-- The number that hexadecimal digits spell. -/
def hexValue (t : Text) : Nat := t.foldl (fun n c => n * 16 + (c.hexDigit?).getD 0) 0

/-- The number that decimal digits spell. -/
def decimalValue (t : Text) : Nat := Text.natOfDigits (t.map fun c => c.val - 48)

/-- The code point that an escape of exactly `count` hexadecimal digits names. -/
def readHexEscape (escape : Text) (count : Nat) : Read CodePoint := do
  let digits ← takeWhileUpTo (fun c => c.hexDigit?.isSome) count
  let whole := escape ++ digits
  if digits.length ≠ count then fail (.incompleteEscape whole) whole.length
  else
    let n := hexValue digits
    if h : n < 0x110000 then return ⟨n, h⟩ else fail (.badEscape whole) whole.length

/-- The character that a name in braces names. -/
def readNamedEscape (escape : Text) : Read CodePoint := do
  if ← accept '\x7b' then
    let name ← takeName '\x7d' "character name"
    if name.any CodePoint.isSurrogate then fail (.badEscape escape) escape.length
    else match CodePoint.ofName? name with
      | some c => return c
      | none => fail (.unknownCharacterName name) (name.length + 4)
  else fail .missingBrace 0

/-- What an escape of one letter stands for in a set: a control or the backslash. -/
def controlEscape? (c : CodePoint) : Option CodePoint :=
  if c = 'a' then some (CodePoint.ofNat 7)
  else if c = 'b' then some (CodePoint.ofNat 8)
  else if c = 'f' then some (CodePoint.ofNat 12)
  else if c = 'n' then some '\n'
  else if c = 'r' then some '\r'
  else if c = 't' then some '\t'
  else if c = 'v' then some (CodePoint.ofNat 11)
  else if c = '\\' then some '\\'
  else none

/-- The kind of code point that an escape of one letter stands for. -/
def classEscape? (c : CodePoint) : Option SetItem :=
  if c = 'd' then some (.kind .digit false)
  else if c = 'D' then some (.kind .digit true)
  else if c = 's' then some (.kind .space false)
  else if c = 'S' then some (.kind .space true)
  else if c = 'w' then some (.kind .word false)
  else if c = 'W' then some (.kind .word true)
  else none

/-- The anchor that an escape of one letter stands for outside sets. -/
def anchorEscape? (c : CodePoint) : Option Anchor :=
  if c = 'A' then some .textStart
  else if c = 'Z' then some .textEnd
  else if c = 'b' then some .wordEdge
  else if c = 'B' then some .notWordEdge
  else none

/-- The letter itself, unless it is an ASCII letter, which means nothing when escaped. -/
def readPlainEscape (escape : Text) (c : CodePoint) : Read CodePoint :=
  if c.isAsciiLetter then fail (.badEscape escape) escape.length else return c

/-- An escape in a set, its token already taken. -/
def readSetEscape (escape : Text) (c : CodePoint) : Read SetItem := do
  match controlEscape? c, classEscape? c with
  | some d, _ => return .single d
  | none, some item => return item
  | none, none =>
    if c = 'x' then return .single (← readHexEscape escape 2)
    else if c = 'u' then return .single (← readHexEscape escape 4)
    else if c = 'U' then return .single (← readHexEscape escape 8)
    else if c = 'N' then return .single (← readNamedEscape escape)
    else if isOctal c then
      let whole := escape ++ (← takeWhileUpTo isOctal 2)
      let n := octalValue (whole.drop 1)
      if n > 0o377 then fail (.octalTooLarge whole) whole.length
      else return .single (CodePoint.ofNat n)
    else if c.isAsciiDigit then fail (.badEscape escape) escape.length
    else return .single (← readPlainEscape escape c)

/-- A part of a sequence. -/
inductive Part where
  /-- One code point that belongs to one of the parts of a set. -/
  | member (o : PatternOptions) (items : List SetItem)
  /-- A pattern that is the same wherever it is spelled the same. -/
  | leaf (p : Pattern)
  /-- A pattern made of others. -/
  | whole (p : Pattern)
  deriving DecidableEq

namespace Part

/-- One code point. -/
def letter (o : PatternOptions) (c : CodePoint) : Part := member o [.single c]

/-- The pattern of a part. -/
def pattern : Part → Pattern
  | member o [.single c] => .letter o c
  | member o items => .ofSet o items false
  | leaf p => p
  | whole p => p

/-- Whether two parts that look the same are the same. -/
def isComparable : Part → Bool
  | whole _ => false
  | _ => true

/-- The pattern of parts one after the other. -/
def sequence (parts : List Part) : Pattern := .ofList (parts.map pattern)

/-- The parts that all alternatives start with, given the first and the others. -/
def sharedBeginning : List Part → List (List Part) → List Part
  | [], _ => []
  | p :: more, others =>
    if p.isComparable && others.all (·.head? = some p) then
      p :: sharedBeginning more (others.map List.tail)
    else []

/-- The options and the set parts of a sequence that is one member of a set. -/
def member? : List Part → Option (PatternOptions × List SetItem)
  | [member o items] => some (o, items)
  | _ => none

/-- The parts that stand for several alternatives: what all of them start with comes
first, and alternatives that are single code points make one set. -/
def ofAlternatives (first : List Part) (others : List (List Part)) : List Part :=
  let shared := sharedBeginning first others
  let rests := (first :: others).map (·.drop shared.length)
  shared ++ match rests.mapM member? with
    | some ((o, items) :: more) => [member o (items ++ more.flatMap (·.2)).eraseDups]
    | _ => [whole (.ofAlternatives (rests.map sequence))]

end Part

/-- The width of a group that is closed. -/
def closedGroup? (index : Nat) : Read (Option PatternWidth) := do
  if index = 0 then return none
  return ((← get).groups[index - 1]?).join

/-- Reports a reference to a group that began in the look-behind being read. -/
def checkLookBehind (index : Nat) : Read Unit := do
  match (← get).lookBehindFrom with
  | none => return
  | some first =>
    if (← closedGroup? index).isNone then fail .openGroup 0
    else if index ≥ first then fail .groupInSameLookBehind 0

/-- An escape that starts with a digit other than zero: three octal digits, or the
number of a group. -/
def readDigitEscape (o : PatternOptions) (escape : Text) (c : CodePoint) : Read Part := do
  let second ← takeWhileUpTo CodePoint.isAsciiDigit 1
  let third ← if isOctal c && second.any isOctal then takeWhileUpTo isOctal 1 else pure []
  let whole := escape ++ second ++ third
  if third ≠ [] then
    let n := octalValue (whole.drop 1)
    if n > 0o377 then fail (.octalTooLarge whole) whole.length
    else return .letter o (CodePoint.ofNat n)
  else
    let index := decimalValue (whole.drop 1)
    if index ≤ (← get).groups.length then
      match ← closedGroup? index with
      | none => fail .openGroup whole.length
      | some width =>
        checkLookBehind index
        return .leaf (.backReference o index width)
    else fail (.invalidReference index) (whole.length - 1)

/-- An escape outside sets, its token already taken. -/
def readEscape (o : PatternOptions) (escape : Text) (c : CodePoint) : Read Part := do
  match anchorEscape? c, classEscape? c, controlEscape? c with
  | some a, _, _ => return .leaf (.anchor o a)
  | none, some item, _ => return .member o [item]
  | none, none, some d => return .letter o d
  | none, none, none =>
    if c = 'x' then return .letter o (← readHexEscape escape 2)
    else if c = 'u' then return .letter o (← readHexEscape escape 4)
    else if c = 'U' then return .letter o (← readHexEscape escape 8)
    else if c = 'N' then return .letter o (← readNamedEscape escape)
    else if c = '0' then
      let digits ← takeWhileUpTo isOctal 2
      return .letter o (CodePoint.ofNat (octalValue digits))
    else if c.isAsciiDigit then readDigitEscape o escape c
    else return .letter o (← readPlainEscape escape c)

/-- A member of a set, its token already taken. -/
def readSetMember (t : Token) : Read SetItem :=
  match t.chars with
  | [_, c] => readSetEscape t.chars c
  | c :: _ => return .single c
  | [] => return .single '\\'

/-- The members of a set after those read so far, up to the closing bracket; `start`
is where the set began. A bracket that comes first is a member. -/
def readSetMembers (start : Nat) : Nat → List SetItem → Read (List SetItem)
  | 0, items => return items
  | n + 1, items => do
    match ← take with
    | none => failAt .unterminatedSet start
    | some t =>
      if t.chars = "]" && items ≠ [] then return items
      else
        let low ← readSetMember t
        if ← accept '-' then
          match ← take with
          | none => failAt .unterminatedSet start
          | some u =>
            if u.chars = "]" then return items ++ [low, .single '-']
            else
              let high ← readSetMember u
              match low, high with
              | .single a, .single b =>
                if b.val < a.val then
                  fail (.badRange t.chars u.chars) (t.chars.length + 1 + u.chars.length)
                else readSetMembers start n (items ++ [.range a b])
              | _, _ => fail (.badRange t.chars u.chars) (t.chars.length + 1 + u.chars.length)
        else readSetMembers start n (items ++ [low])

/-- A set whose opening bracket, at `start`, has been taken. -/
def readSet (o : PatternOptions) (start : Nat) : Read Part := do
  let negated ← accept '^'
  let items := (← readSetMembers start ((← get).rest.length + 1) []).eraseDups
  if negated then
    match items with
    | [.single c] => return .leaf (.otherThan o c)
    | _ => return .leaf (.ofSet o items true)
  else return .member o items

/-- Options named by letters inside a group. -/
structure FlagSet where
  ignoreCase : Bool := false
  multiLine : Bool := false
  dotAll : Bool := false
  verbose : Bool := false
  ascii : Bool := false
  unicode : Bool := false
  template : Bool := false
  deriving DecidableEq, Repr

/-- The options with one more letter; none if the letter is no option. -/
def FlagSet.add? (f : FlagSet) (t : Text) : Option FlagSet :=
  if t = "i" then some { f with ignoreCase := true }
  else if t = "m" then some { f with multiLine := true }
  else if t = "s" then some { f with dotAll := true }
  else if t = "x" then some { f with verbose := true }
  else if t = "a" then some { f with ascii := true }
  else if t = "u" then some { f with unicode := true }
  else if t = "t" then some { f with template := true }
  else none

/-- A letter that names an option, even one that is refused. -/
def isFlag (t : Text) : Bool := t = "L" || (FlagSet.add? {} t).isSome

/-- Whether two sets have an option in common. -/
def FlagSet.meets (f g : FlagSet) : Bool :=
  (f.ignoreCase && g.ignoreCase) || (f.multiLine && g.multiLine) || (f.dotAll && g.dotAll)
    || (f.verbose && g.verbose) || (f.ascii && g.ascii) || (f.unicode && g.unicode)

/-- Reports a token that is no option: a letter is an unknown one, anything else
means that the list of options ends without its end. -/
def failFlag {α : Type} (t : Text) (unfinished : PatternCause) : Read α :=
  match t with
  | [c] => fail (if c.isLetter then .unknownFlag else unfinished) 1
  | _ => fail unfinished t.length

/-- The options turned on, starting with the letter `t`, and the token that ends them. -/
def readFlagsOn : Nat → Text → FlagSet → Read (FlagSet × Text)
  | 0, t, f => return (f, t)
  | n + 1, t, f => do
    match f.add? t with
    | none => fail .localeFlag 0
    | some f =>
      if f.ascii && f.unicode && (t = "a" || t = "u") then fail .clashingFlags 0
      else
        match ← take with
        | none => fail .flagsUnfinished 0
        | some next =>
          if next.chars = ")" || next.chars = "-" || next.chars = ":" then return (f, next.chars)
          else if isFlag next.chars then readFlagsOn n next.chars f
          else failFlag next.chars .flagsUnfinished

/-- The options turned off, starting with the letter `t`, up to the colon. -/
def readFlagsOff : Nat → Text → FlagSet → Read FlagSet
  | 0, _, f => return f
  | n + 1, t, f => do
    if t = "a" || t = "u" || t = "L" then fail .kindFlagOff 0
    else
      let f := (f.add? t).getD f
      match ← take with
      | none => fail .colonMissing 0
      | some next =>
        if next.chars = ":" then return f
        else if isFlag next.chars then readFlagsOff n next.chars f
        else failFlag next.chars .colonMissing

/-- What the options in a group mean: options for the whole pattern, or options turned
on and off inside the group. -/
inductive Flags where
  | whole (on : FlagSet)
  | inside (on off : FlagSet)

/-- The options of a group, whose first letter or minus sign is `t`. -/
def readFlags (t : Text) : Read Flags := do
  let budget := (← get).rest.length + 1
  let (on, ended) ← if t = "-" then pure ({}, t) else readFlagsOn budget t {}
  if ended = ")" then return .whole on
  else if on.template then fail .globalFlagOn 1
  else if ended = "-" then
    match ← take with
    | none => fail .flagMissing 0
    | some next =>
      if !isFlag next.chars then failFlag next.chars .flagMissing
      else
        let off ← readFlagsOff budget next.chars {}
        if off.template then fail .globalFlagOff 1
        else if on.meets off then fail .flagOnAndOff 1
        else return .inside on off
  else return .inside on {}

/-- The options that hold once some are turned on and others off. -/
def FlagSet.update (on off : FlagSet) (o : PatternOptions) : PatternOptions :=
  { ignoreCase := (o.ignoreCase || on.ignoreCase) && !off.ignoreCase
    multiLine := (o.multiLine || on.multiLine) && !off.multiLine
    dotAll := (o.dotAll || on.dotAll) && !off.dotAll
    verbose := (o.verbose || on.verbose) && !off.verbose
    ascii := if on.ascii || on.unicode then on.ascii else o.ascii }

/-- Turns options on for the whole pattern. -/
def turnOn (on : FlagSet) : Read Unit :=
  modify fun r =>
    let ascii := r.options.ascii || on.ascii
    { r with
      options := { on.update {} r.options with ascii := ascii }
      unicodeAsked := r.unicodeAsked || on.unicode
      template := r.template || on.template }

/-- Opens a group, with a name if one is given, and gives its number. -/
def openGroup (name : Option Text) : Read Nat := do
  let r ← get
  let index := r.groups.length + 1
  modify fun r => { r with groups := r.groups ++ [none] }
  match name with
  | none => return index
  | some name => match r.names.get? name with
    | some earlier => fail (.redefinedGroup name index earlier) (name.length + 1)
    | none =>
      modify fun r => { r with names := r.names.put name index }
      return index

/-- Closes a group. -/
def closeGroup (index : Nat) (body : Pattern) : Read Unit :=
  modify fun r => { r with groups := r.groups.set (index - 1) (some body.width) }

/-- What a sign of repetition may follow. -/
inductive Item where
  | part (p : Part)
  /-- A pattern that is repeated already. -/
  | repeated (p : Pattern)
  /-- A group that does nothing but keep its parts together. -/
  | group (parts : List Part)

/-- The parts that an item adds to its sequence. -/
def Item.parts : Item → List Part
  | part p => [p]
  | repeated p => [.whole p]
  | group parts => parts

/-- The parts of a sequence, the last item of which comes first in the list. -/
def partsOf (items : List Item) : List Part := items.reverse.flatMap Item.parts

/-- Repetition numbers from here on are refused. -/
def repetitionLimit : Nat := 4294967295

/-- The number of repetitions that decimal digits spell, if it is not too large. -/
def repetitionNumber (digits : Text) : Read Nat :=
  if digits.length > Text.digitLimit then throw .tooManyDigits
  else
    let n := decimalValue digits
    if n ≥ repetitionLimit then throw .repetitionTooLarge else return n

/-- The bounds in braces after a brace that has been taken; none if what follows is
no pair of bounds, in which case nothing more is taken. -/
def readBounds : Read (Option (Nat × Option Nat)) := do
  let before ← get
  let start ← position
  let low ← takeRun CodePoint.isAsciiDigit
  let high ← if ← accept ',' then takeRun CodePoint.isAsciiDigit else pure low
  if ← accept '\x7d' then
    let least ← repetitionNumber low
    let most ← if high = [] then pure none else some <$> repetitionNumber high
    if most.any (· < least) then failAt .leastAboveMost start else return some (least, most)
  else
    modify fun _ => before
    return none

/-- The bounds that a sign of repetition stands for; none if it is only a brace. -/
def readRepetition (c : CodePoint) : Read (Option (Nat × Option Nat)) := do
  if c = '?' then return some (0, some 1)
  else if c = '*' then return some (0, none)
  else if c = '+' then return some (1, none)
  else if (← peek) = some "\x7d" then return none
  else readBounds

/-- What is preferred, as the sign after the bounds says. -/
def readGreed : Read Greed := do
  if ← accept '?' then return .lazy
  else if ← accept '+' then return .possessive
  else return .greedy

/-- The items with the last one repeated; the sign of repetition is at `start`. -/
def repeatLast (start : Nat) (bounds : Nat × Option Nat) (items : List Item) :
    Read (List Item) := do
  let again (p : Pattern) (earlier : List Item) : Read (List Item) := do
    return .repeated (.repeats (← readGreed) bounds.1 bounds.2 p) :: earlier
  match items with
  | [] => failAt .nothingToRepeat start
  | .part (.leaf (.anchor _ _)) :: _ => failAt .nothingToRepeat start
  | .repeated _ :: _ => failAt .multipleRepeat start
  | .part p :: earlier => again p.pattern earlier
  | .group parts :: earlier => again (Part.sequence parts) earlier

/-- Skips a comment in a group up to its closing parenthesis. -/
def skipComment (start : Nat) : Nat → Read Unit
  | 0 => return
  | n + 1 => do
    match ← peek with
    | none => failAt .unterminatedComment start
    | some _ => match ← take with
      | some t => if t.chars = ")" then return else skipComment start n
      | none => return

/-- Skips a comment up to the end of its line. -/
def skipLine : Nat → Read Unit
  | 0 => return
  | n + 1 => do
    match ← take with
    | none => return
    | some t => if t.chars = "\n" then return else skipLine n

/-- Numbers of groups from here on are refused at once. -/
def groupLimit : Nat := 1073741823

/-- The number of the group that a condition names. -/
def readCondition : Read Nat := do
  let name ← takeName ')' "group name"
  let index ←
    if name.isIdentifier then
      match (← get).names.get? name with
      | some index => pure index
      | none => fail (.unknownGroupName name) (name.length + 1)
    else match Text.integer? name with
      | some (.ofNat index) =>
        if index = 0 then fail .badGroupNumber (name.length + 1)
        else if index ≥ groupLimit then fail (.invalidReference index) (name.length + 1)
        else
          let place := (← position) - name.length - 1
          modify fun r =>
            if r.conditions.any (·.1 == index) then r
            else { r with conditions := r.conditions ++ [(index, place)] }
          pure index
      | _ => fail (.badGroupName name) (name.length + 1)
  checkLookBehind index
  return index

/-- A reference to a group by its name, the equals sign already taken. -/
def readNameReference (o : PatternOptions) : Read Part := do
  let name ← takeName ')' "group name"
  if !name.isIdentifier then fail (.badGroupName name) (name.length + 1)
  else match (← get).names.get? name with
    | none => fail (.unknownGroupName name) (name.length + 1)
    | some index => match ← closedGroup? index with
      | none => fail .openGroup (name.length + 1)
      | some width =>
        checkLookBehind index
        return .leaf (.backReference o index width)

/-- The closing parenthesis of a group that began at `start`. -/
def closeParenthesis (start : Nat) : Read Unit := do
  if ← accept ')' then return else failAt .unterminatedGroup start

/-- What a group turns out to be once the signs after its parenthesis are read. -/
inductive GroupKind where
  | capturing (name : Option Text)
  /-- A group without a number, inside which no option changes. -/
  | plain
  /-- A group without a number, inside which the given options hold. -/
  | withOptions (o : PatternOptions)
  | atomic
  | lookAhead (negated : Bool)
  | lookBehind (negated : Bool)
  | condition
  | reference (p : Part)
  | comment
  | wholeOptions (on : FlagSet)

/-- The kind of a group, whose parenthesis, at `start`, has been taken. -/
def readGroupKind (o : PatternOptions) (start : Nat) : Read GroupKind := do
  if !(← accept '?') then return .capturing none
  match ← take with
  | none => fail .unexpectedEnd 0
  | some t =>
    let c := t.chars
    if c = "P" then
      if ← accept '<' then
        let name ← takeName '>' "group name"
        if name.isIdentifier then return .capturing (some name)
        else fail (.badGroupName name) (name.length + 1)
      else if ← accept '=' then return .reference (← readNameReference o)
      else match ← take with
        | none => fail .unexpectedEnd 0
        | some u => fail (.unknownExtension ("P" ++ u.chars)) (u.chars.length + 2)
    else if c = ":" then return .plain
    else if c = "#" then
      skipComment start ((← get).rest.length + 1)
      return .comment
    else if c = "=" then return .lookAhead false
    else if c = "!" then return .lookAhead true
    else if c = "<" then
      match ← take with
      | none => fail .unexpectedEnd 0
      | some u =>
        if u.chars = "=" then return .lookBehind false
        else if u.chars = "!" then return .lookBehind true
        else fail (.unknownExtension ("<" ++ u.chars)) (u.chars.length + 2)
    else if c = "(" then return .condition
    else if c = ">" then return .atomic
    else if isFlag c || c = "-" then
      match ← readFlags c with
      | .whole on => return .wholeOptions on
      | .inside on off => return .withOptions (on.update off o)
    else fail (.unknownExtension c) (c.length + 1)

/-- White space that a verbose pattern may be laid out with. -/
def isLayout (c : CodePoint) : Bool := (0x9 ≤ c.val && c.val ≤ 0xd) || c.val == 0x20

mutual

/-- The parts that alternatives make, up to the end of a group or of the pattern. The
number bounds how many calls may nest. -/
def readAlternatives : Nat → PatternOptions → Bool → Read (List Part)
  | 0, _, _ => return []
  | n + 1, o, nested => do
    let first ← readSequence n o (!nested) []
    if ← accept '|' then return Part.ofAlternatives first (← readFurther n o nested)
    else return first

/-- The alternatives after a first one, whose bar has been taken. -/
def readFurther : Nat → PatternOptions → Bool → Read (List (List Part))
  | 0, _, _ => return []
  | n + 1, o, nested => do
    let whole := (← get).options
    let o := if nested then o else whole
    let next ← readSequence n o false []
    if ← accept '|' then return next :: (← readFurther n o nested) else return [next]

/-- A sequence up to a bar, the end of a group or the end of the pattern, after the
items read so far, the last of which comes first. Options for the whole pattern may
be turned on only while `atStart` holds and there is no item yet. -/
def readSequence : Nat → PatternOptions → Bool → List Item → Read (List Part)
  | 0, _, _, items => return partsOf items
  | n + 1, o, atStart, items => do
    let start ← position
    match ← peek with
    | none => return partsOf items
    | some next =>
      if next = "|" || next = ")" then return partsOf items
      else
        let _ ← take
        let further (p : Part) := readSequence n o atStart (.part p :: items)
        match next with
        | [c] =>
          if o.verbose && isLayout c then readSequence n o atStart items
          else if o.verbose && c = '#' then
            skipLine ((← get).rest.length + 1)
            readSequence n o atStart items
          else if c = '[' then further (← readSet o start)
          else if c = '?' || c = '*' || c = '+' || c = '\x7b' then
            match ← readRepetition c with
            | none => further (.letter o c)
            | some bounds => readSequence n o atStart (← repeatLast start bounds items)
          else if c = '.' then further (.leaf (.anyChar o))
          else if c = '^' then further (.leaf (.anchor o .lineStart))
          else if c = '$' then further (.leaf (.anchor o .lineEnd))
          else if c = '(' then
            match ← readGroupKind o start with
            | .comment => readSequence n o atStart items
            | .reference p => further p
            | .wholeOptions on =>
              if !atStart || !items.isEmpty then failAt .flagsNotAtStart start
              else
                turnOn on
                readSequence n (← get).options atStart items
            | kind => readSequence n o atStart ((← readGroup n o start kind) :: items)
          else further (.letter o c)
        | [_, c] => further (← readEscape o next c)
        | _ => return partsOf items

/-- The rest of a group of the given kind, which began at `start`. -/
def readGroup : Nat → PatternOptions → Nat → GroupKind → Read Item
  | 0, _, _, _ => return .group []
  | n + 1, o, start, kind => do
    match kind with
    | .capturing name =>
      let index ← openGroup name
      let body ← Part.sequence <$> readAlternatives n o true
      closeParenthesis start
      closeGroup index body
      return .part (.whole (.group index body))
    | .withOptions inner =>
      let body ← Part.sequence <$> readAlternatives n inner true
      closeParenthesis start
      return .part (.whole body)
    | .atomic =>
      let body ← Part.sequence <$> readAlternatives n o true
      closeParenthesis start
      return .part (.whole (.atomic body))
    | .lookAhead negated =>
      let body ← Part.sequence <$> readAlternatives n o true
      closeParenthesis start
      return .part (.whole (.lookAhead negated body))
    | .lookBehind negated =>
      let outer := (← get).lookBehindFrom
      modify fun r => { r with lookBehindFrom := some (outer.getD (r.groups.length + 1)) }
      let body ← Part.sequence <$> readAlternatives n o true
      modify fun r => { r with lookBehindFrom := outer }
      closeParenthesis start
      return .part (.whole (.lookBehind negated body))
    | .condition =>
      let index ← readCondition
      let yes ← Part.sequence <$> readSequence n o false []
      let no ← if ← accept '|' then readOtherBranch n o else pure .empty
      closeParenthesis start
      return .part (.whole (.ifGroup index yes no))
    | _ =>
      let parts ← readAlternatives n o true
      closeParenthesis start
      return .group parts

/-- The second branch of a condition, after which no third may come. -/
def readOtherBranch : Nat → PatternOptions → Read Pattern
  | 0, _ => return .empty
  | n + 1, o => do
    let no ← Part.sequence <$> readSequence n o false []
    if (← peek) = some "|" then fail .tooManyBranches 0 else return no

end

/-- What a repetition is called when it is refused. -/
def refusedName : Greed → Text
  | .greedy => "MAX_REPEAT"
  | .lazy => "MIN_REPEAT"
  | .possessive => "POSSESSIVE_REPEAT"

/-- The first thing in a pattern that cannot be carried out: a look behind without a
fixed width or, where repetitions are refused, a repetition. -/
def firstRefusal? (template : Bool) : Pattern → Option PatternCause
  | seq a b => (a.firstRefusal? template).or (b.firstRefusal? template)
  | alt a b => (a.firstRefusal? template).or (b.firstRefusal? template)
  | repeats greed _ _ body =>
    if template then some (.templateRepetition (refusedName greed))
    else body.firstRefusal? template
  | group _ body => body.firstRefusal? template
  | atomic body => body.firstRefusal? template
  | lookAhead _ body => body.firstRefusal? template
  | lookBehind _ body =>
    if body.width.1 = body.width.2 then body.firstRefusal? template
    else some .variableLookBehind
  | ifGroup _ yes no => (yes.firstRefusal? template).or (no.firstRefusal? template)
  | _ => none

/-- A whole pattern. -/
def readWhole : Read Pattern := do
  checkNext
  let budget := 4 * (← get).rest.length + 4
  let p ← Part.sequence <$> readAlternatives budget {} false
  let r ← get
  if r.options.ascii && r.unicodeAsked then throw .incompatibleFlags
  if r.rest ≠ [] then fail .unbalancedParenthesis 0
  match r.conditions.find? (·.1 > r.groups.length) with
  | some (index, place) => failAt (.invalidReference index) place
  | none => match p.firstRefusal? r.template with
    | some cause => throw (.malformed cause none)
    | none => return p

/-- The pattern that a text spells. -/
def ofText (t : Text) : Except PatternFault Pattern :=
  readWhole.run' { rest := tokensFrom 0 t, stop := t.length }

end VirtualShell.Pattern
