import VirtualShell.Text.Digit
import VirtualShell.Text.Split
/-
  The arguments of the program.

  An option may be written in full, cut short as long as it stays the only one that starts
  so, or as one letter. Its value is the next argument, or stands behind an equals sign,
  or directly behind the letter; two hyphens attached as a value are taken away and leave
  none. An argument that starts with a hyphen is a value only if it
  is a single hyphen, a negative number, or has a space in it and is no option. There are
  no arguments besides options and their values.
-/

namespace VirtualShell

/-- What the program is asked to do. -/
structure Arguments where
  /-- A line to run in place of the interactive loop. -/
  command : Option Text := none
  /-- The name of the user, if one is given; it may be given and be none. -/
  user : Option (Option Text) := none
  /-- The folder that snapshots are kept in. -/
  stateFolder : Option Text := none
  colors : Bool := true
  /-- Whether there is a level for the log. -/
  hasLogLevel : Bool := true
  deriving DecidableEq, Repr

/-- What the arguments come to. -/
inductive Arguments.Outcome where
  /-- The program runs. -/
  | run (arguments : Arguments)
  /-- The program explains its options. -/
  | help
  /-- The arguments are wrong. -/
  | wrong
  deriving DecidableEq, Repr

/-- An option of the program. -/
inductive ProgramOption where
  | help
  | command
  | user
  | stateFolder
  | noColors
  | logLevel
  deriving DecidableEq, Repr

namespace ProgramOption

/-- The ways in which the options are written. -/
def spellings : List (Text × ProgramOption) := [
  ("-h", help), ("--help", help), ("-c", command), ("--command", command), ("-u", user),
  ("--user", user), ("--state-dir", stateFolder), ("--no-color", noColors),
  ("--log-level", logLevel)]

/-- The option written exactly so. -/
def find? (t : Text) : Option ProgramOption := (spellings.find? fun s => s.1 = t).map (·.2)

/-- The options written in a way that starts so. -/
def startingWith (t : Text) : List ProgramOption :=
  (spellings.filter fun s => s.1.startsWith t).map (·.2)

/-- Whether the option has a value. -/
def hasValue : ProgramOption → Bool
  | help => false
  | noColors => false
  | _ => true

end ProgramOption

/-- What an argument is by its looks. -/
inductive ArgumentKind where
  /-- Something that can be a value. -/
  | value
  /-- An option, in short if it is written as one letter, perhaps with a value attached. -/
  | option (o : ProgramOption) (short : Bool) (attached : Option Text)
  /-- Something that looks like an option and is none. -/
  | unknown
  /-- The beginning of several options. -/
  | ambiguous
  deriving DecidableEq, Repr

namespace ArgumentKind

/-- Digits, and nothing but digits. -/
def areDigits (t : Text) : Bool := t ≠ [] && t.all CodePoint.isDigit

/-- A negative number, perhaps with a line feed behind it. -/
def isNegativeNumber : Text → Bool
  | [] => false
  | c :: rest =>
    let rest := if rest.getLast? == some (CodePoint.ofChar '\n') then rest.dropLast else rest
    c = '-' && (areDigits rest ||
      match Text.cut '.' rest with
      | some (whole, fraction) => (whole = [] || areDigits whole) && areDigits fraction
      | none => false)

/-- What an argument is that starts with a hyphen, has more to it, and is not an option
written exactly. -/
def ofHyphened (t : Text) : ArgumentKind :=
  let (written, attached) : Text × Option Text := match t.cut '=' with
    | some (written, behind) => (written, some behind)
    | none => (t, none)
  match attached, ProgramOption.find? written with
  | some behind, some o => option o (written.length == 2) (some behind)
  | _, _ =>
    let plain : ArgumentKind :=
      if isNegativeNumber t || t.contains (CodePoint.ofChar ' ') then value else unknown
    if t.startsWith "--" then
      match ProgramOption.startingWith written with
      | [] => plain
      | [o] => option o false attached
      | _ => ambiguous
    else match ProgramOption.find? (t.take 2) with
      | some o => option o true (some (t.drop 2))
      | none => plain

/-- What an argument is. -/
def ofText (t : Text) : ArgumentKind :=
  match ProgramOption.find? t with
  | some o => option o (t.length == 2) none
  | none => if t.length < 2 || !t.startsWith "-" then value else ofHyphened t

end ArgumentKind

/-- An argument and what it is by its looks. -/
structure Argument where
  text : Text
  kind : ArgumentKind
  deriving DecidableEq, Repr

namespace Arguments

/-- The arguments with what each is; behind two hyphens everything can be a value. The
two hyphens themselves are nothing that is known. -/
def classify : List Text → List Argument
  | [] => []
  | t :: rest =>
    if t = "--" then ⟨t, .unknown⟩ :: rest.map fun t => ⟨t, .value⟩
    else ⟨t, .ofText t⟩ :: classify rest

/-- The arguments with the value of an option taken over. -/
def withValue (a : Arguments) (value : Option Text) : ProgramOption → Arguments
  | .command => { a with command := value }
  | .user => { a with user := some value }
  | .stateFolder => { a with stateFolder := value }
  | .logLevel => { a with hasLogLevel := value.isSome }
  | _ => a

/-- The value that is attached to an option. -/
def attachedValue (t : Text) : Option Text := if t = "--" then none else some t

/-- Whether letters attached to the letter for help are options too: letters for help up
to one for an option that finds its value in the rest or in the next argument. -/
def areOptions (next : Option Argument) : Text → Bool
  | [] => true
  | c :: rest => match ProgramOption.find? ['-', c] with
    | none => false
    | some o =>
      if o.hasValue then !rest.isEmpty || next.map (·.kind) = some .value
      else areOptions next rest

/-- What the arguments come to, given what was made of those before, and whether all of
those could be used. -/
def take (a : Arguments) (used : Bool) : List Argument → Outcome
  | [] => if used then .run a else .wrong
  | ⟨_, .value⟩ :: rest => take a false rest
  | ⟨_, .unknown⟩ :: rest => take a false rest
  | ⟨_, .ambiguous⟩ :: _ => .wrong
  | ⟨_, .option o short attached⟩ :: rest =>
    match attached with
    | some t =>
      if o.hasValue then take (a.withValue (attachedValue t) o) used rest
      else if short && t ≠ [] && areOptions rest.head? t then .help
      else .wrong
    | none => match o with
      | .help => .help
      | .noColors => take { a with colors := false } used rest
      | _ => match rest with
        | ⟨t, .value⟩ :: rest => take (a.withValue (some t) o) used rest
        | _ => .wrong

/-- What the arguments come to. An argument that could be several options makes all of
them wrong. -/
def ofTexts (ts : List Text) : Outcome :=
  let arguments := classify ts
  if arguments.any fun a => a.kind = .ambiguous then .wrong else take {} true arguments

end Arguments

end VirtualShell
