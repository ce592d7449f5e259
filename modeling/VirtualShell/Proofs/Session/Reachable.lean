import VirtualShell.Session.Scripted
import VirtualShell.Proofs.Session.Run
/-
  The states that a session reaches, and that their trees are consistent.

  `Step` is one thing that may happen to a file system: a call on it, a line that is run, a
  message that is delivered, or anything that leaves it alone. `Reachable` is every state that
  such steps lead to from a file system that has been opened, on whatever was stored. The
  store is part of the state, and any of its writes may be refused.

  `isConsistent_of_reachable` is the result: in every reachable state the labels of the nodes
  agree with their places.
-/

namespace VirtualShell

/-- A volume that has just been opened: over a store, whatever that holds, or on a text. -/
inductive Volume.IsOpened : Volume → Prop
  | load {now : Float} {store : Store} {key : Text} {v : Volume} :
    load now store key = .ok v → IsOpened v
  | ofText {now : Float} {t : Text} {store : Store} {key : Text} {v : Volume} :
    ofText now t store key = .ok v → IsOpened v

namespace Session

variable {ω : Type}

/-- One step of a session. Only where whole trees may be replaced is there a reset, damage, or a
message that asks for either. -/
inductive Step (mayReplace : Bool) : Session ω → Session ω → Prop
  /-- Time passes, others act, the user goes elsewhere: the volume stays. -/
  | aside {s s' : Session ω} : s'.volume = s.volume → Step mayReplace s s'
  | change (m : Mutation) (s : Session ω) : Step mayReplace s (change m s).2
  | reset (s : Session ω) : mayReplace = true → Step mayReplace s (reset s).2
  /-- Damage from any source of random numbers, however many attempts it takes. -/
  | corrupt {σ : Type} (attempts : Nat) (source : Source σ) (draws : σ) (s : Session ω) :
    mayReplace = true →
    Step mayReplace s
      { s with volume := (Volume.corruptWithin attempts source s.now (s.volume, draws)).2.1 }
  | line {w : Surroundings ω} (turns : Nat) (t : Text) (s : Session ω) : w.AreCalm mayReplace →
    Step mayReplace s (run (w.host turns) t s).2
  | message {w : Surroundings ω} (turns : Nat) (message : Json) (s : Session ω) :
    w.AreCalm mayReplace → message.IsAllowed mayReplace →
    Step mayReplace s ((w.bus turns).publish message s).2

/-- Any number of steps. -/
def Steps (mayReplace : Bool) : Session ω → Session ω → Prop :=
  Relation.ReflTransGen (Step mayReplace)

/-- A session that steps of any kind lead to from one on a volume just opened. -/
def Reachable (s : Session ω) : Prop :=
  ∃ first : Session ω, first.volume.IsOpened ∧ Steps true first s

/-- Whatever the step, the volume changes by nothing but calls on it. -/
theorem Step.leads {mayReplace : Bool} {s s' : Session ω} (h : Step mayReplace s s') :
    Leads mayReplace s s' := by
  cases h with
  | aside h => exact leads_of_volume_eq h
  | change m => exact (admits_leads mayReplace).change m s
  | reset _ h => exact (admits_leads mayReplace).reset h s
  | corrupt attempts source draws _ h =>
    exact .single (.corrupt attempts source s.now draws s.volume h)
  | line turns t _ hw =>
    exact carries_run (admitsLines_leads mayReplace)
      (hw.keep.keeps (admitsLines_leads mayReplace) turns) t s
  | message turns message _ hw hm =>
    exact (hw.keep.keeps (admitsLines_leads mayReplace) turns).publish message hm s

theorem Steps.leads {mayReplace : Bool} {s s' : Session ω} (h : Steps mayReplace s s') :
    Leads mayReplace s s' := by
  induction h with
  | refl => exact Std.Refl.refl s
  | tail _ hstep ih => exact IsTrans.trans _ _ _ ih hstep.leads

theorem isConsistent_of_isOpened {v : Volume} (h : v.IsOpened) : v.root.IsConsistent := by
  cases h with
  | load h => exact Volume.isConsistent_of_load h
  | ofText h => exact Volume.isConsistent_of_ofText h

theorem Steps.isConsistent {mayReplace : Bool} {first s : Session ω} (h : Steps mayReplace first s)
    (hopened : first.volume.IsOpened) : s.volume.root.IsConsistent :=
  Volume.Run.isConsistent h.leads (isConsistent_of_isOpened hopened)

/-- In every reachable state the tree is consistent. -/
theorem isConsistent_of_reachable {s : Session ω} (h : Reachable s) :
    s.volume.root.IsConsistent := by
  obtain ⟨first, hopened, hsteps⟩ := h
  exact hsteps.isConsistent hopened

theorem areCalm_scripted (assisted obeys : Bool) (machine : Machine) :
    (Scripted.surroundings assisted obeys machine []).AreCalm true where
  listeners l hl argument s := by
    rw [List.mem_singleton.mp hl]
    rfl
  replies := Or.inl rfl

/-- A line and a reset are two steps from a volume that was opened over an empty store. -/
theorem isConsistent_after_reset :
    let w := Scripted.surroundings false false {} []
    let first := start ⟨Node.defaultTree 0, false, none, Store.empty, Volume.defaultKey⟩ {}
      History.usualLimit 0 { draws := { seed := 1 } }
    let s := (reset (run (w.host 1) "mkdir /a/../b" first).2).2
    Reachable s ∧ s.volume.root.IsConsistent := by
  intro w first s
  have hload : Volume.load 0 Store.empty Volume.defaultKey = .ok first.volume := rfl
  have hline : Step true first (run (w.host 1) "mkdir /a/../b" first).2 :=
    .line 1 _ first (areCalm_scripted false false {})
  have h : Reachable s :=
    ⟨first, .load hload, (Relation.ReflTransGen.single hline).tail (.reset _ rfl)⟩
  exact ⟨h, isConsistent_of_reachable h⟩

end Session

end VirtualShell
