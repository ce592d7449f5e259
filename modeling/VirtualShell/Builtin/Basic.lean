import VirtualShell.HelpPage
import VirtualShell.Session.Basic
/-
  Built-in commands.

  A built-in command takes its arguments and what the stage before it put out, and
  gives back its own output, in colours where it has any. Its name is looked up in lower
  case.
-/

namespace VirtualShell

/-- A built-in command. -/
structure Builtin (ω : Type) where
  name : Text
  page : HelpPage
  /-- The output for a host, the arguments, and the output of the stage before. -/
  run : Host ω → List Text → Text → Action (Session ω) Text

end VirtualShell
