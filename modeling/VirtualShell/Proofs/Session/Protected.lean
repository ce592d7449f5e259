import VirtualShell.Proofs.FileSystem.Guard
import VirtualShell.Proofs.Session.Reachable
/-
  The protected directory stays as it is.

  No accepted change touches what is there, so no run of calls does, and so no session, whatever
  lines and messages it is made of.
-/

namespace VirtualShell

namespace Volume

theorem Step.lookup_protected {v w : Volume} {n : Node} (h : Step false v w)
    (hn : v.root.lookup protectedDirectory = some n) :
    w.root.lookup protectedDirectory = some n := by
  cases h with
  | change now m =>
    rw [root_apply]
    cases hm : m.verdict now v.root with
    | accepted root => exact (Mutation.effect_of_accepted hm).lookup_protected hn
    | refused | guarded | unencodable => exact hn
  | reset _ _ h => cases h
  | corrupt _ _ _ _ _ h => cases h

theorem Run.lookup_protected {v w : Volume} {n : Node} (h : Run false v w)
    (hn : v.root.lookup protectedDirectory = some n) :
    w.root.lookup protectedDirectory = some n := by
  induction h with
  | refl => exact hn
  | tail _ hstep ih => exact hstep.lookup_protected ih

end Volume

namespace Session

variable {ω : Type}

/-- Whatever is asked for, in whatever spelling and order, by calls, lines or messages: as long
as no whole tree is put in, what stands at the protected path stays there, the same in
every node below it. -/
theorem lookup_protected_of_steps {s s' : Session ω} {n : Node} (h : Steps false s s')
    (hn : s.volume.root.lookup protectedDirectory = some n) :
    s'.volume.root.lookup protectedDirectory = some n :=
  Volume.Run.lookup_protected h.leads hn

/-- Around the guard by way of other names, and by a line: the starting directory is still there. -/
theorem lookup_protected_after_detours :
    let w := Scripted.surroundings false false {} []
    let first := start ⟨Node.defaultTree 0, false, none, Store.empty, Volume.defaultKey⟩ {}
      History.usualLimit 0 { draws := { seed := 1 } }
    let s := (change (.rename "Desktop/../System/." "Away")
      (run (w.host 1) "mv //Documents /Desktop" first).2).2
    ∃ n, Steps false first s ∧ first.volume.root.lookup protectedDirectory = some n ∧
      s.volume.root.lookup protectedDirectory = some n := by
  intro w first s
  have hw : w.AreCalm false := ⟨(areCalm_scripted false false {}).listeners, Or.inr (Or.inl rfl)⟩
  have hline : Step false first (run (w.host 1) "mv //Documents /Desktop" first).2 :=
    .line 1 _ first hw
  have h : Steps false first s := (Relation.ReflTransGen.single hline).tail (.change _ _)
  exact ⟨_, h, rfl, lookup_protected_of_steps h rfl⟩

end Session

end VirtualShell
