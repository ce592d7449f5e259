import VirtualShell.Builtin.Files
import VirtualShell.Builtin.Filters
import VirtualShell.Builtin.Information
import VirtualShell.Builtin.Pastime
/-
  The table of built-in commands, the command that shows their help pages, and the
  dispatch by name.
-/

namespace VirtualShell

namespace Builtin

variable {ω : Type}

/-- The help page of `clear`. A pipeline sees to `clear` itself, so it has a page and is
not in the table. -/
def clearPage : HelpPage := {
  description := "Clear the terminal screen."
  usage := "clear"
  examples := ["clear                  # Wipe the output log and stop the pipeline"] }

/-- The help page of `help`. -/
def helpPage : HelpPage := {
  description := "Show available commands or help for one command."
  usage := "help [COMMAND]"
  examples := [
    "help                   # List all commands",
    "help grep              # Show help for grep"] }

/-- The commands apart from `help`. -/
def others : List (Builtin ω) := [
  date, echo, neofetch, ai, history, uname, whoami, uptime,
  pwd, cd, ls, cat, mkdir, touch, rm, mv, cp, openAny,
  grep, wc, ping, ipconfig, cowsay, fortune]

/-- The help pages by name, in the order in which they are listed. -/
def pages : Entries HelpPage :=
  [(("help" : Text), helpPage)] ++ (@others Unit).map (fun b => (b.name, b.page)) ++
    [(("clear" : Text), clearPage)]

/-- Lists the commands, or shows one help page. -/
def help : Builtin ω where
  name := "help"
  page := helpPage
  run _ args _ :=
    match args with
    | [] => return "Available commands: " ++ Text.join ", " pages.keys
    | arg :: _ => match pages.get? arg.lower with
      | some page => return page.render arg.lower
      | none => return Markup.error ("help: no help available for '" ++ arg ++ "'")

/-- All built-in commands. -/
def table : List (Builtin ω) := help :: others

/-- The command of a name, in upper or lower case. -/
def find? (name : Text) : Option (Builtin ω) := table.find? fun b => b.name = name.lower

end Builtin

/-- A command run by name. -/
def dispatch {ω : Type} (host : Host ω) (name : Text) (args : List Text) (input : Text) :
    Action (Session ω) Text :=
  match Builtin.find? name with
  | some b => b.run host args input
  | none => return Markup.error ("Command not found: " ++ name)

end VirtualShell
