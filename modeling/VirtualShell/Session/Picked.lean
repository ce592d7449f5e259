import VirtualShell.Fault
import VirtualShell.Text.Quoted
/-
  What a template can pick out of a value, step by step.

  A value starts as text. By name one picks the kind that a value is of, what the kind is
  called, the kinds it builds upon, or something that can be done with text; by number one
  picks a character of a text or one of several kinds.
-/

namespace VirtualShell

/-- The kinds of what a template can pick. -/
inductive PickedKind where
  | text
  /-- The kind that all others build upon. -/
  | anything
  | kind
  | several
  | nothing
  | bound
  | unbound
  deriving DecidableEq, Repr

/-- What a template has picked. -/
inductive Picked where
  | text (t : Text)
  | kind (k : PickedKind)
  | several (ks : List PickedKind)
  | nothing
  /-- Something that can be done with the text. -/
  | bound (t : Text) (name : Text)
  /-- Something that can be done with any text. -/
  | unbound (name : Text)
  deriving DecidableEq, Repr

namespace PickedKind

/-- What the kind is called. -/
def name : PickedKind → Text
  | text => "str"
  | anything => "object"
  | kind => "type"
  | several => "tuple"
  | nothing => "NoneType"
  | bound => "builtin_function_or_method"
  | unbound => "method_descriptor"

/-- The kind as it is shown. -/
def shown (k : PickedKind) : Text := "<class '" ++ k.name ++ "'>"

/-- The kinds that the kind builds upon at once. -/
def bases : PickedKind → List PickedKind
  | anything => []
  | _ => [anything]

/-- What there is to say about texts, about all values and about kinds. -/
def about : PickedKind → Text
  | text => Text.join "\n" [
      "str(object='') -> str",
      "str(bytes_or_buffer[, encoding[, errors]]) -> str",
      "",
      "Create a new string object from the given object. If encoding or",
      "errors is specified, then the object must expose a data buffer",
      "that will be decoded using the given encoding and error handler.",
      "Otherwise, returns the result of object.__str__() (if defined)",
      "or repr(object).",
      "encoding defaults to sys.getdefaultencoding().",
      "errors defaults to 'strict'."]
  | anything => Text.join "\n" [
      "The base class of the class hierarchy.",
      "",
      "When called, it accepts no arguments and returns a new featureless",
      "instance that has no instance attributes and cannot be given any.",
      ""]
  | kind => Text.join "\n" [
      "type(object) -> the object's type",
      "type(name, bases, dict, **kwds) -> a new type"]
  | _ => []

end PickedKind

namespace Picked

/-- What can be done with text. -/
def deeds : List Text := Text.words <| Text.ofString <| String.intercalate " " [
  "capitalize casefold center count encode endswith expandtabs find format format_map index",
  "isalnum isalpha isascii isdecimal isdigit isidentifier islower isnumeric isprintable",
  "isspace istitle isupper join ljust lower lstrip maketrans partition removeprefix",
  "removesuffix replace rfind rindex rjust rpartition rsplit rstrip split splitlines",
  "startswith strip swapcase title translate upper zfill"]

/-- The kind of what was picked. -/
def kindOf : Picked → PickedKind
  | text _ => .text
  | kind _ => .kind
  | several _ => .several
  | nothing => .nothing
  | bound _ _ => .bound
  | unbound _ => .unbound

/-- What a name picks out of a kind. -/
def memberOfKind? (name : Text) (k : PickedKind) : Option Picked :=
  if name = "__name__" || name = "__qualname__" then some (text k.name)
  else if name = "__module__" then some (text "builtins")
  else if name = "__base__" then some ((k.bases.head?.map kind).getD nothing)
  else if name = "__bases__" then some (several k.bases)
  else if name = "__mro__" then some (several (k :: k.bases))
  else if name = "__doc__" then some (if k.about = [] then nothing else text k.about)
  else if k = .text && deeds.contains name then some (unbound name)
  else none

/-- What a name picks. -/
def member? (name : Text) (value : Picked) : Option Picked :=
  if name = "__class__" then some (kind value.kindOf)
  else match value with
    | text t =>
      if name = "__doc__" then some (text (PickedKind.about .text))
      else if deeds.contains name then some (bound t name)
      else none
    | kind k => memberOfKind? name k
    | bound t deed =>
      if name = "__name__" then some (text deed)
      else if name = "__qualname__" then some (text ("str." ++ deed))
      else if name = "__self__" then some (text t)
      else if name = "__module__" then some nothing
      else none
    | unbound deed =>
      if name = "__name__" then some (text deed)
      else if name = "__qualname__" then some (text ("str." ++ deed))
      else if name = "__objclass__" then some (kind .text)
      else none
    | _ => none

/-- What a number picks, or the fault that it is too great or that there is nothing to be
picked by number. -/
def item (index : Nat) : Picked → Except Fault Picked
  | text t => match t[index]? with
    | some c => .ok (text [c])
    | none => .error .noSuchPosition
  | several ks => match ks[index]? with
    | some k => .ok (kind k)
    | none => .error .noSuchPosition
  | _ => .error .wrongKind

/-- Several kinds as they are shown, one alone with a comma behind it. -/
def shownSeveral : List PickedKind → Text
  | [k] => "(" ++ k.shown ++ ",)"
  | ks => "(" ++ Text.join ", " (ks.map PickedKind.shown) ++ ")"

/-- What was picked as it is shown. -/
def shown : Picked → Text
  | text t => t
  | kind k => k.shown
  | several ks => shownSeveral ks
  | nothing => "None"
  | bound _ deed => "<built-in method " ++ deed ++ " of str object at 0x7f0000000000>"
  | unbound deed => "<method '" ++ deed ++ "' of 'str' objects>"

/-- What was picked with a text in quotes. -/
def quoted : Picked → Text
  | text t => t.quoted
  | value => value.shown

end Picked

end VirtualShell
