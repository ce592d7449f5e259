import VirtualShell.Proofs.Session.Encodable
import VirtualShell.Proofs.Session.Run
/-
  What the stages of a line do besides what each command does.

  The only messages that commands publish are those that ask for something to be opened, and these
  reach none but the listeners. So where the listeners leave the history and the log alone, stages
  add nothing to either; and where the listeners bring in no surrogates, a line without surrogates
  has output without them.
-/

namespace VirtualShell

open VirtualShell.Action (Carries IsCourse Along)

/-! ## Who is asked to open something -/

theorem Route.ofFields_of_isOpening {fields : Entries Json} (h : (Json.object fields).IsOpening) :
    Route.ofFields fields = ⟨.null, .text "openApp", .object fields⟩ := by
  obtain ⟨appId, h | ⟨key, path, h⟩⟩ := h <;> cases h <;> rfl

namespace Surroundings

variable {ω : Type} {w : Surroundings ω}

/-- A message that asks for something to be opened is handed as it is to some of the listeners. -/
theorem publish_of_isOpening (run : Text → Action (Session ω) Unit) {message : Json}
    (h : message.IsOpening) : ∃ asked ⊆ w.listeners, (w.busWith run).publish message = do
      Bus.deliver message asked
      return !asked.isEmpty := by
  obtain ⟨fields, rfl⟩ : ∃ fields, message = .object fields := by
    obtain ⟨appId, rfl | ⟨key, path, rfl⟩⟩ := h <;> exact ⟨_, rfl⟩
  have hroute := Route.ofFields_of_isOpening h
  have hothers : (Session.volumeActions w.source ++ [Session.terminalAction run]).filter
      (Route.leadsTo ⟨.null, .text "openApp", .object fields⟩) = [] := rfl
  refine ⟨w.listeners.filter (Route.leadsTo ⟨.null, .text "openApp", .object fields⟩),
    List.filter_sublist.subset, ?_⟩
  rw [Bus.publish, hroute, Bus.on, busWith, List.filter_append, hothers, List.nil_append]
  rfl

/-- A bus on which a line is run in some way. -/
theorem exists_bus_eq (w : Surroundings ω) (turns : Nat) :
    ∃ run, (w.host turns).bus = w.busWith run := by
  cases turns with
  | zero => exact ⟨_, rfl⟩
  | succ turns => exact ⟨_, rfl⟩

end Surroundings

section Openers

variable {ω : Type} {R : Session ω → Session ω → Prop}

/-- Whoever on the bus may be asked to open something keeps to a relation. Commands ask for nothing
else, so these are all whom they turn to. -/
def Host.OpenersKeep (R : Session ω → Session ω → Prop) (host : Host ω) : Prop :=
  ∀ l ∈ host.bus, l.appId = none → l.action = "openApp" →
    ∀ (argument : Json) (s : Session ω), R s (l.handle argument s).2

theorem Host.OpenersKeep.publish {mayReplace : Bool} [IsPreorder (Session ω) R] {host : Host ω}
    (h : host.OpenersKeep R) (hR : Session.AdmitsCalls mayReplace (Along R)) {message : Json}
    (hm : message.IsOpening) : Carries (Along R) (host.bus.publish message) := by
  refine Bus.carries_publish hR ?_
  rintro fields rfl l hl
  obtain ⟨hl, hroute⟩ := List.mem_filter.mp hl
  rw [Route.ofFields_of_isOpening hm] at hroute
  simp only [Route.leadsTo, Route.namesApp, Route.namesAction, Bool.and_eq_true,
    Option.isNone_iff_eq_none, decide_eq_true_eq] at hroute
  exact h l hl hroute.1 hroute.2.symm _

/-- On a host these are all among the listeners. -/
theorem Surroundings.openersKeep {w : Surroundings ω}
    (h : ∀ l ∈ w.listeners, ∀ (argument : Json) (s : Session ω), R s (l.handle argument s).2)
    (turns : Nat) : (w.host turns).OpenersKeep R := by
  obtain ⟨run, hbus⟩ := w.exists_bus_eq turns
  intro l hl happ haction argument s
  rw [hbus] at hl
  rcases List.mem_append.mp hl with hl | hl
  · have hothers : (Session.volumeActions w.source ++ [Session.terminalAction run]).filter
        (Route.leadsTo ⟨.null, .text "openApp", .null⟩) = [] := rfl
    refine absurd ?_ (List.filter_eq_nil_iff.mp hothers l hl)
    rw [Route.leadsTo, happ, haction]
    rfl
  · exact h l hl argument s

end Openers

/-! ## The history and the log -/

/-- Surroundings in which the listeners leave the history and the log of a session alone. -/
def Surroundings.LeaveRecords {ω : Type} (w : Surroundings ω) : Prop :=
  ∀ l ∈ w.listeners, ∀ (argument : Json) (s : Session ω),
    (l.handle argument s).2.history = s.history ∧ (l.handle argument s).2.log = s.log

namespace Session

variable {ω : Type} {host : Host ω}

/-- The history and the log are the same. -/
def SameRecords (s s' : Session ω) : Prop := s'.history = s.history ∧ s'.log = s.log

instance : IsPreorder (Session ω) SameRecords where
  refl _ := ⟨rfl, rfl⟩
  trans _ _ _ h h' := ⟨h'.1.trans h.1, h'.2.trans h.2⟩

theorem admits_sameRecords : Admits true (Action.Along (@SameRecords ω)) where
  fault _ _ _ := ⟨rfl, rfl⟩
  noText _ _ := ⟨rfl, rfl⟩
  volume _ _ _ _ _ := ⟨rfl, rfl⟩
  outside _ _ := ⟨rfl, rfl⟩
  directory _ _ _ _ := ⟨rfl, rfl⟩

theorem sameRecords_runStages (h : host.OpenersKeep SameRecords) (commands : List Command)
    (output : Text) (s : Session ω) : SameRecords s (runStages host commands output s).2 :=
  carries_runStages admits_sameRecords
    (fun _ hm => h.publish admits_sameRecords.toAdmitsCalls hm) commands output s

end Session

theorem Surroundings.LeaveRecords.openersKeep {ω : Type} {w : Surroundings ω}
    (h : w.LeaveRecords) (turns : Nat) : (w.host turns).OpenersKeep Session.SameRecords :=
  Surroundings.openersKeep (fun l hl argument s => h l hl argument s) turns

/-- Entering a line brings no other line into the history. -/
theorem History.mem_of_mem_lines_add {h : History} {line entry : Text}
    (he : entry ∈ (h.add line).lines) : entry ∈ h.lines ∨ entry = line := by
  change entry ∈ h.linesWith line at he
  rw [linesWith] at he
  split at he
  · exact .inl he
  · have hlines : entry ∈
        (if h.lines.getLast? = some line then h.lines else h.lines ++ [line]) := by
      dsimp only at he
      generalize (if h.lines.getLast? = some line then h.lines else h.lines ++ [line]) = lines
        at he ⊢
      split at he
      · exact List.mem_of_mem_drop he
      · exact he
    split at hlines
    · exact .inl hlines
    · rcases List.mem_append.mp hlines with he | he
      · exact .inl he
      · exact .inr (List.mem_singleton.mp he)

/-! ## Surrogates -/

namespace Pipeline

variable {line : Text}

theorem isEncodable_cutRedirect (h : line.IsEncodable) : (cutRedirect line).1.IsEncodable := by
  unfold cutRedirect
  split
  · exact h.trim
  · rename_i hcut
    exact (h.of_subset (Text.subset_of_cut hcut).1).trim

theorem isEncodable_of_mem_commands (h : line.IsEncodable) {command : Command}
    (hc : command ∈ (ofLine line).commands) :
    command.name.IsEncodable ∧ ∀ arg ∈ command.args, arg.IsEncodable := by
  obtain ⟨stage, hs, rfl⟩ := List.mem_map.mp hc
  have hstage : stage.trim.IsEncodable := ((isEncodable_cutRedirect h).of_mem_pieces hs).trim
  have hwords (word : Text) (hw : word ∈ stage.trim.words) := hstage.of_mem_words hw
  rw [Command.ofStage]
  split
  · exact ⟨Text.isEncodable_nil, fun _ ha => nomatch ha⟩
  · rename_i name args hsplit
    rw [hsplit] at hwords
    exact List.forall_mem_cons.mp hwords

end Pipeline

namespace Session

variable {ω : Type} {host : Host ω}

theorem yields_runStage (h : host.IsEncodable) {command : Command} {input : Text}
    (hname : command.name.IsEncodable) (hargs : ∀ arg ∈ command.args, arg.IsEncodable)
    (hinput : input.IsEncodable) : Yields Text.IsEncodable (runStage host command input) := by
  intro s hs
  obtain ⟨hleft, hanswer⟩ := yields_dispatch h hname hargs hinput s hs
  rw [runStage, Action.bind_apply, Action.attempt_apply]
  dsimp only
  cases hresult : (dispatch host command.name command.args input s).1 with
  | ok output =>
    rw [hresult] at hanswer
    exact ⟨hleft, hanswer⟩
  | error fault =>
    rw [hresult] at hanswer
    have hreport : (Markup.error (command.name ++ ": " ++ fault.message)).IsEncodable := by
      simp [hname, hanswer]
    cases fault with
    | noText => exact ⟨hleft, hanswer⟩
    | _ => exact ⟨hleft, hreport⟩

theorem yields_runStages (h : host.IsEncodable) {commands : List Command}
    (hc : ∀ command ∈ commands,
      command.name.IsEncodable ∧ ∀ arg ∈ command.args, arg.IsEncodable) :
    ∀ {output : Text}, output.IsEncodable →
      Yields (fun o => ∀ t ∈ o, Text.IsEncodable t) (runStages host commands output) := by
  induction commands with
  | nil =>
    refine fun houtput => .pure fun t ht => ?_
    rwa [Option.mem_some.mp ht] at houtput
  | cons command rest ih =>
    intro output houtput
    obtain ⟨⟨hname, hargs⟩, hrest⟩ := List.forall_mem_cons.mp hc
    rw [runStages]
    split
    · exact .pure fun t ht => absurd ht (Option.not_mem_none t)
    · exact .bind (yields_runStage h hname hargs houtput.strip) fun o ho => ih hrest ho

end Session

/-- Surroundings that bring no surrogates into a session: what is told holds none, and a listener
who is asked to open something brings in none, nor do the words of its failure hold any. -/
structure Surroundings.AreEncodable {ω : Type} (w : Surroundings ω) : Prop where
  address : ∀ (o : ω) (address : Text), (w.lookUpAddress o).1 = .ok address → address.IsEncodable
  runtime : w.machine.runtime.IsEncodable
  system : w.machine.system.IsEncodable
  release : w.machine.release.IsEncodable
  listeners : ∀ l ∈ w.listeners, ∀ message : Json, message.IsEncodableOpening →
    Session.Yields (fun _ => True) (l.handle message)

theorem Json.IsEncodableOpening.isOpening {message : Json} (h : message.IsEncodableOpening) :
    message.IsOpening := by
  obtain ⟨appId, -, rfl | ⟨key, path, -, -, rfl⟩⟩ := h
  · exact ⟨appId, .inl rfl⟩
  · exact ⟨appId, .inr ⟨key, path, rfl⟩⟩

theorem Surroundings.AreEncodable.host {ω : Type} {w : Surroundings ω} (hw : w.AreEncodable)
    (turns : Nat) : (w.host turns).IsEncodable where
  address := hw.address
  runtime := hw.runtime
  system := hw.system
  release := hw.release
  publish message hm := by
    have deliver {bus : Bus (Session ω)} (h : ∀ l ∈ bus, Session.Yields (fun _ => True)
        (l.handle message)) : Session.Yields (fun _ => True) (Bus.deliver message bus) := by
      induction bus with
      | nil => exact .pure trivial
      | cons l rest ih =>
        obtain ⟨hl, hrest⟩ := List.forall_mem_cons.mp h
        exact .bind hl fun _ _ => ih hrest
    obtain ⟨run, hbus⟩ := w.exists_bus_eq turns
    obtain ⟨asked, hasked, hpublish⟩ := publish_of_isOpening (w := w) run hm.isOpening
    rw [hbus, hpublish]
    exact .bind (deliver fun l hl => hw.listeners l (hasked hl) message hm) fun _ _ => .pure trivial

end VirtualShell
