import VirtualShell.Store.Basic
import VirtualShell.Tree.Snapshot
/-
  What can cut a call short.

  A refusal of a change is an ordinary answer and not among these. A fault ends the
  call it arises in; what had happened before it stays, so every call gives back the
  state it reached together with its answer or its fault.
-/

namespace VirtualShell

/-- Why a call was cut short. -/
inductive Fault where
  /-- The store failed. -/
  | store (fault : StoreFault)
  /-- A stored text is no snapshot, in a way that has no fallback. -/
  | snapshot (fault : SnapshotFault)
  /-- A text holds a surrogate where bytes are needed. -/
  | unencodable (t : Text)
  /-- A value of a message is of the wrong kind for what is done with it. -/
  | wrongKind
  /-- A value of a message is asked for something that its kind does not have. -/
  | noSuchMember
  /-- A handler failed. -/
  | handler (message : Text)
  /-- Somebody outside could not be reached. -/
  | unreachable (message : Text)
  /-- A number is too large for what is done with it. -/
  | tooLarge (message : Text)
  /-- A value does not do where it is used. -/
  | unsuitable (message : Text)
  /-- A template asks for a name that there is none of. -/
  | noSuchName (name : Text)
  /-- A template asks for a position that there is none of. -/
  | noSuchPosition
  /-- A command has no text to put out. -/
  | noText
  /-- A search for a free random name was given up. -/
  | unfinished
  /-- A loop would go on for ever without taking any input. -/
  | endless

/-- The fault of a store in words. -/
def StoreFault.message : StoreFault → Text
  | nothingBehind => []
  | diskFull => "disk full"
  | disk .notFound => "No such file or directory"
  | disk .isFolder => "Is a directory"
  | disk .notFolder => "Not a directory"
  | disk .occupied => "File exists"
  | disk .nameTooLong => "File name too long"
  | notUtf8 => "invalid UTF-8"
  | noUtf8 => "surrogates not allowed"
  | name .noBytes => "surrogates not allowed"
  | name .hasNul => "embedded null byte"

/-- The place of the first surrogates in a text. -/
def surrogateReport (t : Text) : Text :=
  let start := (t.takeWhile fun c : CodePoint => !c.isSurrogate).length
  let run := (t.drop start).takeWhile CodePoint.isSurrogate
  let place : Text := match run with
    | [c] => " " ++ Text.quoted [c] ++ " in position " ++ Text.ofNat start
    | _ => "s in position " ++ Text.ofNat start ++ "-" ++ Text.ofNat (start + run.length - 1)
  "'utf-8' codec can't encode character" ++ place ++ ": surrogates not allowed"

/-- The fault in words. -/
def Fault.message : Fault → Text
  | store fault => fault.message
  | snapshot fault => fault.message
  | unencodable t => surrogateReport t
  | wrongKind => "value of the wrong kind"
  | noSuchMember => "value without such a member"
  | handler message => message
  | unreachable message => message
  | tooLarge message => message
  | unsuitable message => message
  | noSuchName name => name.quoted
  | noSuchPosition => "position out of range"
  | noText => "expected string or bytes-like object, got 'list'"
  | unfinished => "no free name found"
  | endless => "endless loop"

/-- A call on a state: its answer or its fault, and the state it leaves. -/
abbrev Action (σ α : Type) := ExceptT Fault (StateM σ) α

namespace Action

/-- The call on part of the state. -/
def onPart {σ τ α : Type} (get : σ → τ) (set : τ → σ → σ) (part : Action τ α) : Action σ α :=
  fun s =>
    let (result, t) := part (get s)
    (result, set t s)

/-- The call, with its fault as part of the answer. -/
def attempt {σ α : Type} (call : Action σ α) : Action σ (Except Fault α) :=
  fun s =>
    let (result, s) := call s
    (.ok result, s)

end Action

end VirtualShell
