import VirtualShell.CommandLine.Program
import VirtualShell.Proofs.Session.Loop
/-
  What a run of the program puts on the screen, and what it leaves.

  The run begins with a session over the store that the arguments name, in surroundings without an
  assistant, and the loop is what is left of it. So in a run with colours the screen is made of the
  prompts and of what the lines put out by themselves, and the disk is the one that they leave.
-/

namespace VirtualShell

namespace Program

open Session (Arrival)

variable {lookUp : Action Scripted Text} {a : Arguments} {disk : DiskEntry} {login : Text}

/-- The prompt of a run in colours: who is logged in, and the last name in the working directory. -/
def prompt (login : Text) (s : Session Scripted) : Text :=
  Markup.green ++ login ++ "@treeshell" ++ Markup.reset ++ ":" ++ Markup.blue ++ s.shownDirectory ++
    Markup.reset ++ "$ "

section Start

variable {now : Float} {draws : Script} {s : Session Scripted}
  (h : start a login disk now draws = .ok s)

include h

end Start

end Program

end VirtualShell
