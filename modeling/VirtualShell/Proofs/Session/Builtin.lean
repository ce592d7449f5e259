import VirtualShell.Builtin.Table
import VirtualShell.Proofs.FileSystem.Volume
/-
  What commands do to a session.

  Commands change a session in few ways: they make calls on the volume, draw from outside, and go to
  another directory. A relation that allows these, and what those do to whom the commands turn,
  holds from before to after each command of the table; this is shown here once for all such
  relations. `Leads` is one of them: the volume changes by nothing but calls on it.
-/

namespace VirtualShell

/-! ## Faults of the calendar -/

/-- A fault that says in fixed words that a number does not do. -/
def Fault.IsNumeric (fault : Fault) : Prop :=
  ∃ words : String, fault = .unsuitable words ∨ fault = .tooLarge words

theorem Fault.IsNumeric.ne_noText {fault : Fault} (h : fault.IsNumeric) : fault ≠ .noText := by
  obtain ⟨words, rfl | rfl⟩ := h <;> nofun

theorem isNumeric_of_wholePart {x : Float} {fault : Fault} (h : wholePart x = .error fault) :
    fault.IsNumeric := by
  rw [wholePart] at h
  split at h
  · cases h
  · split at h
    · cases h
      exact ⟨_, .inl rfl⟩
    · cases h
      exact ⟨_, .inr rfl⟩

theorem isNumeric_of_microseconds {x : Float} {fault : Fault} (h : microseconds x = .error fault) :
    fault.IsNumeric := by
  rw [microseconds] at h
  cases hw : wholePart x with
  | ok n =>
    rw [hw] at h
    cases h
  | error f =>
    rw [hw] at h
    cases h
    exact isNumeric_of_wholePart hw

theorem isNumeric_of_ofInstant {x : Float} {fault : Fault}
    (h : CalendarTime.ofInstant x = .error fault) : fault.IsNumeric := by
  rw [CalendarTime.ofInstant] at h
  cases hm : microseconds x with
  | ok n =>
    rw [hm] at h
    dsimp only [bind, Except.bind] at h
    split at h
    · cases h
      exact ⟨_, .inr rfl⟩
    · cases h
  | error f =>
    rw [hm] at h
    cases h
    exact isNumeric_of_microseconds hm

namespace Session

open VirtualShell.Action (Carries IsCourse fault?)

variable {ω α : Type} {mayReplace : Bool}

/-! ## What commands need -/

/-- A relation that allows whatever commands do by themselves, save going to a directory. Only the
command that prints the name of the user ends for the lack of any output, and only where there is no
user. -/
structure AdmitsCalls (mayReplace : Bool) (R : Session ω → Option Fault → Session ω → Prop) :
    Prop where
  fault (s : Session ω) {fault : Fault} : fault ≠ .noText → R s (some fault) s
  noText (s : Session ω) : s.settings.user = none → R s (some .noText) s
  volume (s : Session ω) {v : Volume} {fault : Option Fault} :
    Volume.Run mayReplace s.volume v → fault ≠ some .noText → R s fault { s with volume := v }
  outside (s : Session ω) (o : ω) : R s none { s with outside := o }

/-- A relation that allows whatever commands do by themselves. They go to no directory but one that
is there. -/
structure Admits (mayReplace : Bool) (R : Session ω → Option Fault → Session ω → Prop) : Prop
    extends AdmitsCalls mayReplace R where
  directory (s : Session ω) (path : Text) {d : Node} :
    s.volume.directory? (s.resolve path) = some d → R s none { s with cwd := s.resolve path }

variable {R : Session ω → Option Fault → Session ω → Prop}

namespace AdmitsCalls

theorem throw (h : AdmitsCalls mayReplace R) {fault : Fault} (hf : fault ≠ .noText) :
    Carries R (throw fault : Action (Session ω) α) := Carries.throw fun s => h.fault s hf

theorem draw (h : AdmitsCalls mayReplace R) (next : ω → α × ω) : Carries R (draw next) :=
  fun s => h.outside s _

/-- A call to someone outside, whose fault is made part of the answer. -/
theorem attempt (h : AdmitsCalls mayReplace R) (call : Action ω α) :
    Carries R (Action.attempt (onOutside call)) := fun s => h.outside s _

theorem onVolume_settle (h : AdmitsCalls mayReplace R) (s : Session ω) (verdict : Verdict)
    (hrun : Volume.Run mayReplace s.volume (Volume.settle verdict s.volume).2) :
    R s (fault? (onVolume (Volume.settle verdict) s).1) (onVolume (Volume.settle verdict) s).2 := by
  refine h.volume s hrun fun hf => ?_
  cases hr : (Volume.settle verdict s.volume).1 with
  | ok =>
    rw [show (onVolume (Volume.settle verdict) s).1 = _ from hr] at hf
    cases hf
  | error fault =>
    rw [show (onVolume (Volume.settle verdict) s).1 = _ from hr] at hf
    cases hf
    rcases Volume.fault_of_settle hr with ⟨f, hf⟩ | ⟨content, -, hf⟩ <;> cases hf

theorem change (h : AdmitsCalls mayReplace R) (m : Mutation) :
    Carries R (change m : Action (Session ω) Bool) :=
  fun s => h.onVolume_settle s _ (.single (.change s.now m s.volume))

theorem reset (h : AdmitsCalls mayReplace R) (hm : mayReplace = true) :
    Carries R (reset : Action (Session ω) Unit) := by
  intro s
  refine h.volume s (.single (.reset s.now s.volume hm)) fun hf => ?_
  rw [show (Session.reset s).1 =
    (s.volume.replacing (Node.defaultTree s.now) false).outcome from rfl] at hf
  rcases Volume.outcome_cases (s.volume.replacing (Node.defaultTree s.now) false) with
    ho | ⟨f, ho⟩ <;> rw [ho] at hf <;> cases hf

theorem corrupt [IsCourse R] (h : AdmitsCalls mayReplace R) (hm : mayReplace = true)
    (source : Source ω) : Carries R (corrupt source) := by
  intro s
  let r := Volume.corruptWithin Script.period source s.now (s.volume, s.outside)
  have hr : r = _ := Volume.corruptWithin_eq Script.period source s.now s.volume s.outside
  have hrun : Volume.Run mayReplace s.volume r.2.1 :=
    .single (.corrupt Script.period source s.now s.outside s.volume hm)
  have hfault : fault? r.1 ≠ some .noText := by
    rw [hr]
    split
    · nofun
    · rename_i root later _
      rw [Volume.replaceRoot_eq]
      rcases (s.volume.replacing root true).outcome_cases with ho | ⟨f, ho⟩ <;> rw [ho] <;> nofun
  exact IsCourse.trans (h.outside s r.2.2) (h.volume _ hrun hfault)

end AdmitsCalls

/-- Whether the volume of the one session comes by a run from that of the other. -/
def Leads (mayReplace : Bool) (s s' : Session ω) : Prop := Volume.Run mayReplace s.volume s'.volume

instance (mayReplace : Bool) : IsPreorder (Session ω) (Leads mayReplace) where
  refl s := Std.Refl.refl s.volume
  trans s s' s'' := IsTrans.trans s.volume s'.volume s''.volume

theorem leads_of_volume_eq {s s' : Session ω} (h : s'.volume = s.volume) :
    Leads mayReplace s s' := by
  rw [Leads, h]
  exact Std.Refl.refl _

theorem admits_leads (mayReplace : Bool) :
    Admits mayReplace (Action.Along (@Leads ω mayReplace)) where
  fault _ _ _ := leads_of_volume_eq rfl
  noText _ _ := leads_of_volume_eq rfl
  volume _ _ _ h _ := h
  outside _ _ := leads_of_volume_eq rfl
  directory _ _ _ _ := leads_of_volume_eq rfl

end Session

/-- A message that asks for an app to be opened, perhaps on something. -/
def Json.IsOpening (message : Json) : Prop :=
  ∃ appId, message = Builtin.openApp appId ∨
    ∃ key path, message = Builtin.openInApp appId key path

namespace Builtin

open VirtualShell.Action (Carries IsCourse)
open Session (Admits AdmitsCalls)

variable {ω : Type} {mayReplace : Bool} {host : Host ω}
  {R : Session ω → Option Fault → Session ω → Prop} [IsCourse R]

/-! ## Commands that only look -/

theorem carries_date (hR : AdmitsCalls mayReplace R) (host : Host ω) (args : List Text)
    (input : Text) : Carries R (date.run host args input) := by
  refine Carries.bind Carries.get fun s => ?_
  split
  · exact Carries.pure _
  · rename_i fault hfault
    exact hR.throw (isNumeric_of_ofInstant hfault).ne_noText

theorem carries_whoami (hR : AdmitsCalls mayReplace R) (host : Host ω) (args : List Text)
    (input : Text) : Carries R (whoami.run host args input) := by
  unfold whoami
  dsimp only
  intro s
  rw [Action.get_bind_apply]
  cases huser : s.settings.user with
  | none => exact hR.noText s huser
  | some name => exact IsCourse.refl s

theorem carries_uptime (hR : AdmitsCalls mayReplace R) (host : Host ω) (args : List Text)
    (input : Text) : Carries R (uptime.run host args input) := by
  refine Carries.bind Carries.get fun s => ?_
  split
  · rename_i fault hfault
    exact hR.throw (isNumeric_of_wholePart hfault).ne_noText
  · exact Carries.pure _

theorem carries_ipconfig (hR : AdmitsCalls mayReplace R) (host : Host ω) (args : List Text)
    (input : Text) : Carries R (ipconfig.run host args input) := by
  refine Carries.bind (hR.attempt host.lookUpAddress) fun result => ?_
  split
  · exact Carries.pure _
  · exact Carries.pure _

theorem carries_help (host : Host ω) (args : List Text) (input : Text) :
    Carries R (help.run host args input) := by
  unfold help
  dsimp only
  split
  · exact Carries.pure _
  · split
    · exact Carries.pure _
    · exact Carries.pure _

theorem carries_ls (host : Host ω) (args : List Text) (input : Text) :
    Carries R (ls.run host args input) := by
  refine Carries.bind Carries.get fun s => ?_
  dsimp only
  split
  · exact Carries.pure _
  · exact Carries.pure _

theorem carries_cat (host : Host ω) (args : List Text) (input : Text) :
    Carries R (cat.run host args input) := by
  refine Carries.bind Carries.get fun s => ?_
  split
  · exact Carries.pure _
  · split
    · exact Carries.pure _
    · exact Carries.pure _
    · exact Carries.pure _

theorem carries_cd (hR : Admits mayReplace R) (host : Host ω) (args : List Text) (input : Text) :
    Carries R (cd.run host args input) := by
  unfold cd
  dsimp only
  intro s
  rw [Action.get_bind_apply]
  cases hd : s.volume.directory? (s.resolve (args.headD Path.root)) with
  | none => exact IsCourse.refl s
  | some d => exact hR.directory s _ hd

theorem carries_grep (hR : AdmitsCalls mayReplace R) (host : Host ω) (args : List Text)
    (input : Text) : Carries R (grep.run host args input) := by
  unfold grep
  dsimp only
  split
  · exact Carries.pure _
  · split
    · exact Carries.pure _
    · exact hR.throw nofun
    · exact hR.throw nofun
    · exact hR.throw nofun
    · refine Carries.bind Carries.get fun s => ?_
      split
      · exact Carries.pure _
      · split
        · exact Carries.pure _
        · exact Carries.pure _

theorem ne_noText_of_counts {t : Text} {fault : Fault} (h : counts t = .error fault) :
    fault ≠ .noText := by
  rw [counts] at h
  split at h <;> cases h
  nofun

theorem carries_wc (hR : AdmitsCalls mayReplace R) (host : Host ω) (args : List Text)
    (input : Text) : Carries R (wc.run host args input) := by
  unfold wc
  dsimp only
  split
  · exact Carries.pure _
  · refine Carries.bind Carries.get fun s => ?_
    split
    · exact Carries.pure _
    · rename_i t _
      cases hcounts : counts t with
      | ok line => exact Carries.pure _
      | error fault => exact hR.throw (ne_noText_of_counts hcounts)

/-! ## Commands that turn to the host -/

theorem carries_replies (hR : AdmitsCalls mayReplace R) (machine : Host ω) (name : Text) (n : Nat) :
    Carries R (replies machine name n) := by
  induction n with
  | zero => exact Carries.pure _
  | succ n ih =>
    have roll : Carries R (do
        let time ← Session.draw (machine.source.roll 30)
        let line : Text := "Reply from " ++ name ++ ": time=" ++ Text.ofNat (1 + time) ++ "ms"
        return line :: (← replies machine name n)) :=
      Carries.bind (hR.draw _) fun _ => Carries.bind ih fun _ => Carries.pure _
    refine Carries.bind Carries.get fun s => ?_
    dsimp only
    split
    · exact Carries.bind (hR.draw _) fun _ => roll
    · exact roll

theorem carries_openAny
    (hopen : ∀ message : Json, message.IsOpening → Carries R (host.bus.publish message))
    (args : List Text) (input : Text) : Carries R (openAny.run host args input) := by
  have opened : ∀ message, Json.IsOpening message → Carries R (do
      discard <| host.bus.publish message
      return ([] : Text)) :=
    fun message hm => Carries.bind (hopen message hm).discard fun _ => Carries.pure _
  refine Carries.bind Carries.get fun s => ?_
  split
  · exact Carries.pure _
  · split
    · exact opened _ ⟨_, .inl rfl⟩
    · exact opened _ ⟨_, .inr ⟨_, _, rfl⟩⟩
    · split
      · exact Carries.pure _
      · exact opened _ ⟨_, .inr ⟨_, _, rfl⟩⟩

/-! ## Commands that change the tree -/

theorem carries_create (hR : AdmitsCalls mayReplace R) (command kind : Text)
    (mutation : Text → Text → Mutation) (args : List Text) :
    Carries R (create command kind mutation args : Action (Session ω) Text) := by
  unfold create
  split
  · exact Carries.pure _
  · refine Carries.bind Carries.get fun s => ?_
    refine Carries.bind (hR.change _) fun made => ?_
    split
    · exact Carries.pure _
    · exact Carries.bind Carries.get fun s => Carries.pure _

theorem carries_rm (hR : AdmitsCalls mayReplace R) (host : Host ω) (args : List Text)
    (input : Text) : Carries R (rm.run host args input) := by
  unfold rm
  dsimp only
  split
  · exact Carries.pure _
  · refine Carries.bind Carries.get fun s => ?_
    refine Carries.bind (hR.change _) fun made => ?_
    split
    · exact Carries.pure _
    · exact Carries.pure _

theorem carries_transfer (hR : AdmitsCalls mayReplace R) (command verb : Text)
    (mutation : Text → Text → Mutation) (args : List Text) :
    Carries R (transfer command verb mutation args : Action (Session ω) Text) := by
  unfold transfer
  split
  · refine Carries.bind Carries.get fun s => ?_
    refine Carries.bind (hR.change _) fun made => ?_
    split
    · exact Carries.pure _
    · exact Carries.pure _
  · exact Carries.pure _

/-! ## The table -/

/-- What a command of the table does, given what going to a directory does. -/
theorem carries_run_of_mem (hR : AdmitsCalls mayReplace R)
    (hopen : ∀ message : Json, message.IsOpening → Carries R (host.bus.publish message))
    (args : List Text) (input : Text) {b : Builtin ω} (hb : b ∈ table)
    (hcd : b.name = "cd" → Carries R (cd.run host args input)) :
    Carries R (b.run host args input) := by
  simp only [table, others, List.mem_cons, List.not_mem_nil, or_false] at hb
  rcases hb with rfl | rfl | rfl | rfl | rfl | rfl | rfl | rfl | rfl | rfl | rfl | rfl | rfl | rfl |
    rfl | rfl | rfl | rfl | rfl | rfl | rfl | rfl | rfl | rfl | rfl
  · exact carries_help host args input
  · exact carries_date hR host args input
  · exact Carries.pure _
  · exact Carries.pure _
  · exact Carries.pure _
  · exact Carries.bind Carries.get fun s => Carries.pure _
  · exact Carries.pure _
  · exact carries_whoami hR host args input
  · exact carries_uptime hR host args input
  · exact Carries.bind Carries.get fun s => Carries.pure _
  · exact hcd rfl
  · exact carries_ls host args input
  · exact carries_cat host args input
  · exact carries_create hR "mkdir" "directory" Mutation.createDirectory args
  · exact carries_create hR "touch" "file" (fun parent name => .createFile parent name []) args
  · exact carries_rm hR host args input
  · exact carries_transfer hR "mv" "move" Mutation.move args
  · exact carries_transfer hR "cp" "copy" Mutation.copy args
  · exact carries_openAny hopen args input
  · exact carries_grep hR host args input
  · exact carries_wc hR host args input
  · exact Carries.bind (carries_replies hR host _ 4) fun _ => Carries.pure _
  · exact carries_ipconfig hR host args input
  · exact Carries.pure _
  · exact Carries.bind (hR.draw _) fun _ => Carries.pure _

end Builtin

namespace Builtin

theorem mem_table_of_find? {ω : Type} {name : Text} {b : Builtin ω} (h : find? name = some b) :
    b ∈ table ∧ b.name = name.lower :=
  ⟨List.mem_of_find?_eq_some h, by simpa using List.find?_some h⟩

end Builtin

section Dispatch

open VirtualShell.Action (Carries IsCourse)
open Session (Admits AdmitsCalls)

variable {ω : Type} {mayReplace : Bool} {host : Host ω}
  {R : Session ω → Option Fault → Session ω → Prop} [IsCourse R]

theorem carries_dispatch (hR : Admits mayReplace R)
    (hopen : ∀ message : Json, message.IsOpening → Carries R (host.bus.publish message))
    (name : Text) (args : List Text) (input : Text) :
    Carries R (dispatch host name args input) := by
  rw [dispatch]
  split
  · rename_i b hb
    exact Builtin.carries_run_of_mem hR.toAdmitsCalls hopen args input
      (Builtin.mem_table_of_find? hb).1 fun _ => Builtin.carries_cd hR host args input
  · exact Carries.pure _

/-- No command but the one that is for it goes to a directory. -/
theorem carries_dispatch_of_ne (hR : AdmitsCalls mayReplace R)
    (hopen : ∀ message : Json, message.IsOpening → Carries R (host.bus.publish message))
    {name : Text} (hname : name.lower ≠ "cd") (args : List Text) (input : Text) :
    Carries R (dispatch host name args input) := by
  rw [dispatch]
  split
  · rename_i b hb
    obtain ⟨hmem, hb⟩ := Builtin.mem_table_of_find? hb
    exact Builtin.carries_run_of_mem hR hopen args input hmem fun hcd =>
      absurd (hb.symm.trans hcd) hname
  · exact Carries.pure _

end Dispatch

end VirtualShell
