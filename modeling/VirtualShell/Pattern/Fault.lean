import VirtualShell.Text.Split
import VirtualShell.Text.Quoted
/-
  What can be wrong with the text of a pattern, and how it is reported: in a few
  words, with the position of the offending part and, in a pattern of several
  lines, its line and column.
-/

namespace VirtualShell

/-- What is wrong with the text of a pattern. -/
inductive PatternCause where
  | escapeAtEnd
  | incompleteEscape (escape : Text)
  | badEscape (escape : Text)
  | octalTooLarge (escape : Text)
  | missingBrace
  | unknownCharacterName (name : Text)
  | missingName (what : Text)
  | unterminatedName (terminator : CodePoint)
  | badGroupName (name : Text)
  | unknownGroupName (name : Text)
  | redefinedGroup (name : Text) (index earlier : Nat)
  | badGroupNumber
  | invalidReference (index : Nat)
  | openGroup
  | groupInSameLookBehind
  | unterminatedSet
  | badRange (low high : Text)
  | leastAboveMost
  | nothingToRepeat
  | multipleRepeat
  | unexpectedEnd
  | unknownExtension (text : Text)
  | unterminatedComment
  | unterminatedGroup
  | unbalancedParenthesis
  | tooManyBranches
  | flagsNotAtStart
  | unknownFlag
  | flagsUnfinished
  | flagMissing
  | colonMissing
  | localeFlag
  | clashingFlags
  | globalFlagOn
  | globalFlagOff
  | kindFlagOff
  | flagOnAndOff
  | variableLookBehind
  | templateRepetition (kind : Text)
  deriving DecidableEq, Repr

/-- The cause in words. -/
def PatternCause.message : PatternCause → Text
  | escapeAtEnd => "bad escape (end of pattern)"
  | incompleteEscape escape => "incomplete escape " ++ escape
  | badEscape escape => "bad escape " ++ escape
  | octalTooLarge escape => "octal escape value " ++ escape ++ " outside of range 0-0o377"
  | missingBrace => "missing \x7b"
  | unknownCharacterName name => "undefined character name " ++ name.quoted
  | missingName what => "missing " ++ what
  | unterminatedName terminator => "missing " ++ [terminator] ++ ", unterminated name"
  | badGroupName name => "bad character in group name " ++ name.quoted
  | unknownGroupName name => "unknown group name " ++ name.quoted
  | redefinedGroup name index earlier =>
    "redefinition of group name " ++ name.quoted ++ " as group " ++ Text.ofNat index
      ++ "; was group " ++ Text.ofNat earlier
  | badGroupNumber => "bad group number"
  | invalidReference index => "invalid group reference " ++ Text.ofNat index
  | openGroup => "cannot refer to an open group"
  | groupInSameLookBehind => "cannot refer to group defined in the same lookbehind subpattern"
  | unterminatedSet => "unterminated character set"
  | badRange low high => "bad character range " ++ low ++ "-" ++ high
  | leastAboveMost => "min repeat greater than max repeat"
  | nothingToRepeat => "nothing to repeat"
  | multipleRepeat => "multiple repeat"
  | unexpectedEnd => "unexpected end of pattern"
  | unknownExtension text => "unknown extension ?" ++ text
  | unterminatedComment => "missing ), unterminated comment"
  | unterminatedGroup => "missing ), unterminated subpattern"
  | unbalancedParenthesis => "unbalanced parenthesis"
  | tooManyBranches => "conditional backref with more than two branches"
  | flagsNotAtStart => "global flags not at the start of the expression"
  | unknownFlag => "unknown flag"
  | flagsUnfinished => "missing -, : or )"
  | flagMissing => "missing flag"
  | colonMissing => "missing :"
  | localeFlag => "bad inline flags: cannot use 'L' flag with a str pattern"
  | clashingFlags => "bad inline flags: flags 'a', 'u' and 'L' are incompatible"
  | globalFlagOn => "bad inline flags: cannot turn on global flag"
  | globalFlagOff => "bad inline flags: cannot turn off global flag"
  | kindFlagOff => "bad inline flags: cannot turn off flags 'a', 'u' and 'L'"
  | flagOnAndOff => "bad inline flags: flag turned on and off"
  | variableLookBehind => "look-behind requires fixed-width pattern"
  | templateRepetition kind => "internal: unsupported template operator " ++ kind

/-- Why a text is no pattern. -/
inductive PatternFault where
  /-- The text is wrong, at the position given if there is one to give. -/
  | malformed (cause : PatternCause) (position : Option Nat)
  /-- A number of repetitions is beyond all bounds. -/
  | repetitionTooLarge
  /-- A number of repetitions has too many digits. -/
  | tooManyDigits
  /-- The pattern asks both for ASCII and for Unicode. -/
  | incompatibleFlags
  deriving DecidableEq, Repr

/-- The line and the column of a position, both counted from one. -/
def lineAndColumn (t : Text) (position : Nat) : Nat × Nat :=
  let before := t.take position
  (before.count (CodePoint.ofChar '\n') + 1,
   (before.reverse.takeWhile fun c : CodePoint => c != '\n').length + 1)

/-- A cause with its position in the pattern `t`. -/
def PatternCause.report (cause : PatternCause) (position : Option Nat) (t : Text) : Text :=
  match position with
  | none => cause.message
  | some p =>
    let (line, column) := lineAndColumn t p
    cause.message ++ " at position " ++ Text.ofNat p
      ++ (if t.contains (CodePoint.ofChar '\n') then
            " (line " ++ Text.ofNat line ++ ", column " ++ Text.ofNat column ++ ")"
          else [])

end VirtualShell
