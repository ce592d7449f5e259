import VirtualShell.Proofs.Session.Reachable
/-
  Sessions in use, and what is true of each of them.

  A session starts with a user and in the root directory, and from there it is used: by calls on
  its volume, by lines and by messages. All of this leaves it a user and, as its working directory,
  a normal path, though not one that has to lead anywhere. Those who listen on the bus may do the
  same things to the session and may fail, each fault but one being theirs: a lack of output is
  what a stage ends for, not a handler.
-/

namespace VirtualShell

open VirtualShell.Action (Carries IsCourse)

namespace Session

variable {ω : Type}

/-- A session with a user, in a directory that is named by a normal path. -/
structure IsInOrder (s : Session ω) : Prop where
  user : s.settings.user.isSome = true
  cwd : Path.IsNormal s.cwd

/-- A call changes the volume by nothing but calls on it and, where the session is in order, leaves
it so and does not end for the lack of any output. -/
structure Proceeds (s : Session ω) (fault : Option Fault) (s' : Session ω) : Prop where
  leads : Leads true s s'
  inOrder : s.IsInOrder → s'.IsInOrder
  hasText : s.IsInOrder → fault ≠ some .noText

instance : IsCourse (@Proceeds ω) where
  refl s := ⟨Std.Refl.refl (r := Leads true) s, id, fun _ => nofun⟩
  trans h h' := ⟨IsTrans.trans _ _ _ h.leads h'.leads, fun hs => h'.inOrder (h.inOrder hs),
    fun hs => h'.hasText (h.inOrder hs)⟩
  caught h := ⟨h.leads, h.inOrder, fun _ => nofun⟩

theorem admitsLines_proceeds : AdmitsLines true (@Proceeds ω) where
  fault s _ hf := ⟨Std.Refl.refl (r := Leads true) s, id, fun _ e => hf (Option.some.inj e)⟩
  noText s hu := by
    refine ⟨Std.Refl.refl (r := Leads true) s, id, fun hs => ?_⟩
    have huser := hs.user
    rw [hu] at huser
    cases huser
  volume s _ _ hrun hf := ⟨hrun, fun hs => ⟨hs.user, hs.cwd⟩, fun _ => hf⟩
  outside s o := ⟨leads_of_volume_eq rfl, fun hs => ⟨hs.user, hs.cwd⟩, fun _ => nofun⟩
  directory s path _ _ := ⟨leads_of_volume_eq rfl,
    fun hs => ⟨hs.user, Path.isNormal_resolve path hs.cwd⟩, fun _ => nofun⟩
  records s history log := ⟨leads_of_volume_eq rfl, fun hs => ⟨hs.user, hs.cwd⟩, fun _ => nofun⟩

end Session

/-- Surroundings in which those who listen do to a session what can be done in using it. -/
def Surroundings.AreOrderly {ω : Type} (w : Surroundings ω) : Prop :=
  ∀ l ∈ w.listeners, ∀ argument : Json, Carries Session.Proceeds (l.handle argument)

theorem Surroundings.AreOrderly.keeps {ω : Type} {w : Surroundings ω} (hw : w.AreOrderly)
    (turns : Nat) : (w.host turns).Keeps true Session.Proceeds :=
  Keep.keeps ⟨hw, .inl rfl⟩ Session.admitsLines_proceeds turns

namespace Session

variable {ω : Type}

/-- One step in using a session. -/
inductive Use : Session ω → Session ω → Prop
  /-- Time passes, others act: the volume, the settings and the working directory stay. -/
  | aside {s s' : Session ω} :
    s'.volume = s.volume → s'.settings = s.settings → s'.cwd = s.cwd → Use s s'
  | change (m : Mutation) (s : Session ω) : Use s (change m s).2
  | reset (s : Session ω) : Use s (reset s).2
  /-- Damage from any source of random numbers, however many attempts it takes. -/
  | corrupt {σ : Type} (attempts : Nat) (source : Source σ) (draws : σ) (s : Session ω) :
    Use s { s with volume := (Volume.corruptWithin attempts source s.now (s.volume, draws)).2.1 }
  | line {w : Surroundings ω} (turns : Nat) (t : Text) (s : Session ω) : w.AreOrderly →
    Use s (run (w.host turns) t s).2
  | message {w : Surroundings ω} (turns : Nat) (message : Json) (s : Session ω) : w.AreOrderly →
    Use s ((w.bus turns).publish message s).2

/-- A session that has been started on a volume just opened, for a user, and used since. -/
def Underway (s : Session ω) : Prop :=
  ∃ (volume : Volume) (settings : Settings) (limit : Int) (now : Float) (outside : ω),
    volume.IsOpened ∧ settings.user.isSome = true ∧
      Relation.ReflTransGen Use (start volume settings limit now outside) s

/-- Each step leaves a session in order, and its volume where calls lead. -/
theorem Use.proceeds {s s' : Session ω} (h : Use s s') : ∃ fault, Proceeds s fault s' := by
  have hR := @admitsLines_proceeds ω
  cases h with
  | aside hvolume hsettings hcwd =>
    refine ⟨none, leads_of_volume_eq hvolume, fun hs => ⟨?_, ?_⟩, fun _ => nofun⟩
    · rw [hsettings]
      exact hs.user
    · rw [hcwd]
      exact hs.cwd
  | change m => exact ⟨_, hR.change m s⟩
  | reset => exact ⟨_, hR.reset rfl s⟩
  | corrupt attempts source draws =>
    exact ⟨none, hR.volume s (.single (.corrupt attempts source s.now draws s.volume rfl)) nofun⟩
  | line turns t _ hw => exact ⟨_, carries_run hR (hw.keeps turns) t s⟩
  | message turns message _ hw => exact ⟨_, (hw.keeps turns).publish message (.inl rfl) s⟩

/-- No use of a session takes from a store that it takes everything. -/
theorem takesAll_of_uses {s s' : Session ω} (h : Relation.ReflTransGen Use s s')
    (hs : s.volume.store.TakesAll) : s'.volume.store.TakesAll := by
  induction h with
  | refl => exact hs
  | tail _ hstep ih => exact hstep.proceeds.elim fun _ hp => Volume.Run.takesAll hp.leads ih

theorem Underway.isInOrder {s : Session ω} (h : Underway s) : s.IsInOrder := by
  obtain ⟨volume, settings, limit, now, outside, -, huser, hsteps⟩ := h
  induction hsteps with
  | refl => exact ⟨huser, Path.isNormal_root⟩
  | tail _ hstep ih => exact hstep.proceeds.elim fun _ hp => hp.inOrder ih

/-- In every session in use the tree is consistent. -/
theorem Underway.isConsistent {s : Session ω} (h : Underway s) : s.volume.root.IsConsistent := by
  obtain ⟨volume, settings, limit, now, outside, hopened, -, hsteps⟩ := h
  induction hsteps with
  | refl => exact isConsistent_of_isOpened hopened
  | tail _ hstep ih => exact hstep.proceeds.elim fun _ hp => Volume.Run.isConsistent hp.leads ih

theorem areOrderly_scripted (assisted obeys : Bool) (machine : Machine) :
    (Scripted.surroundings assisted obeys machine []).AreOrderly := by
  intro l hl argument s
  rw [List.mem_singleton.mp hl]
  exact admitsLines_proceeds.outside s _

end Session

end VirtualShell
