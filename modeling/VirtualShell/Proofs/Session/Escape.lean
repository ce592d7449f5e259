import VirtualShell.Proofs.Session.Redirect
import VirtualShell.Proofs.Session.Stages
/-
  Lines that end in a fault.

  Whatever fails in a stage or in the assistant is put into words, so a line can only end in a fault
  by the redirection that comes last: where the store does not take the snapshot, or where the
  output is to be stored and has no size. The latter takes a surrogate in the output, and the output
  is made of what the line, the session and its surroundings hold. The history counts here, and so
  do the working directory and the name of the user.
-/

namespace VirtualShell

open VirtualShell.Action (Carries)

/-- Surroundings in which nobody answers, and whoever is asked to open something fails. -/
def Surroundings.deserted : Surroundings Unit where
  source := ⟨fun o => (0, o), fun _ o => (0, o), fun _ o => (0, o)⟩
  sleep _ o := o
  lookUpAddress := throw (.unreachable "offline")
  ask := none
  obeys := false
  machine := {}
  listeners := [⟨none, "openApp", fun _ => throw (.handler "boom")⟩]

namespace Surroundings

theorem areOrderly_deserted : deserted.AreOrderly := by
  intro l hl argument s
  rw [List.mem_singleton.mp hl]
  exact Session.admitsLines_proceeds.fault s nofun

theorem leaveRecords_deserted : deserted.LeaveRecords := by
  intro l hl argument s
  rw [List.mem_singleton.mp hl]
  exact ⟨rfl, rfl⟩

end Surroundings

namespace Session

variable {ω : Type} {host : Host ω} {s : Session ω} {w : Surroundings ω} {line target : Text}

/-! ## Lines that end without a fault -/

end Session

end VirtualShell
