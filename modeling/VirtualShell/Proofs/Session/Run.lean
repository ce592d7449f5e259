import VirtualShell.Session.Surroundings
import VirtualShell.Proofs.Session.Builtin
/-
  What lines and messages do to a session.

  They do what commands do, and change the history and the log. A line may ask the assistant, whose
  reply may publish messages, one of which may run a line; so lines and messages are shown to keep
  to a relation together, by induction on the number of turns that a host allows. That the volume
  changes by nothing but calls on it is one case.
-/

namespace VirtualShell

open VirtualShell.Action (Carries IsCourse)

/-- Whether a route leads to those who put in a whole tree. -/
def Route.isDrastic (route : Route) : Bool :=
  namesApp none route.appId &&
    (namesAction "factoryReset" route.action || namesAction "corruptFileSystem" route.action)

/-- Whether a message asks for a whole tree to be put in. -/
def Json.isDrastic : Json → Bool
  | object fields => (Route.ofFields fields).isDrastic
  | _ => false

/-- A message that does not ask for a whole tree to be put in, unless that is permitted. -/
def Json.IsAllowed (mayReplace : Bool) (message : Json) : Prop :=
  mayReplace = true ∨ message.isDrastic = false

theorem Json.IsOpening.isAllowed {message : Json} (h : message.IsOpening) (mayReplace : Bool) :
    message.IsAllowed mayReplace := by
  obtain ⟨appId, rfl | ⟨key, path, rfl⟩⟩ := h <;> exact .inr rfl

/-- A host on which messages and the assistant keep to a relation. -/
structure Host.Keeps {ω : Type} (mayReplace : Bool)
    (R : Session ω → Option Fault → Session ω → Prop) (host : Host ω) : Prop where
  publish : ∀ message : Json, message.IsAllowed mayReplace → Carries R (host.bus.publish message)
  assistant : ∀ ask, host.assistant = some ask → ∀ prompt,
    Carries R (Action.attempt (ask prompt))

namespace Session

variable {ω : Type} {mayReplace : Bool} {host : Host ω}
  {R : Session ω → Option Fault → Session ω → Prop}

/-- A relation that allows whatever lines do by themselves. -/
structure AdmitsLines (mayReplace : Bool) (R : Session ω → Option Fault → Session ω → Prop) : Prop
    extends Admits mayReplace R where
  records (s : Session ω) (history : History) (log : List LogLine) :
    R s none { s with history := history, log := log }

theorem admitsLines_leads (mayReplace : Bool) :
    AdmitsLines mayReplace (Action.Along (@Leads ω mayReplace)) where
  toAdmits := admits_leads mayReplace
  records _ _ _ := leads_of_volume_eq rfl

theorem AdmitsLines.respond (h : AdmitsLines mayReplace R) (t : Text) :
    Carries R (respond t : Action (Session ω) Text) := fun s => h.records s s.history _

variable [IsCourse R]

/-! ## Stages -/

/-- A stage ends as its command does, but that a fault is put into words, save one. -/
theorem carries_runStage (hR : Admits mayReplace R)
    (hopen : ∀ message : Json, message.IsOpening → Carries R (host.bus.publish message))
    (command : Command) (input : Text) : Carries R (runStage host command input) := by
  intro s
  have h := carries_dispatch hR hopen command.name command.args input s
  rw [runStage, Action.bind_apply, Action.attempt_apply]
  dsimp only
  cases hresult : (dispatch host command.name command.args input s).1 with
  | ok output =>
    rw [hresult] at h
    exact h
  | error fault =>
    rw [hresult] at h
    cases fault <;> first | exact h | exact IsCourse.caught h

theorem carries_runStages (hR : Admits mayReplace R)
    (hopen : ∀ message : Json, message.IsOpening → Carries R (host.bus.publish message))
    (commands : List Command) :
    ∀ output : Text, Carries R (runStages host commands output) := by
  induction commands with
  | nil => intro output; exact Carries.pure _
  | cons command rest ih =>
    intro output
    rw [runStages]
    split
    · exact Carries.pure _
    · exact Carries.bind (carries_runStage hR hopen command _) fun output => ih output

theorem carries_redirect (hR : AdmitsLines mayReplace R) (target content : Text) :
    Carries R (redirect target content : Action (Session ω) Text) := by
  refine Carries.bind Carries.get fun s => ?_
  refine Carries.bind (hR.change _) fun written => ?_
  split
  · exact Carries.pure _
  · exact Carries.bind Carries.get fun s => hR.respond _

theorem carries_askAssistant (hR : AdmitsLines mayReplace R) (h : host.Keeps mayReplace R)
    (prompt : Text) : Carries R (askAssistant host prompt) := by
  unfold askAssistant
  split
  · exact hR.respond _
  · rename_i ask hask
    refine Carries.bind (h.assistant ask hask prompt) fun result => ?_
    split
    · exact hR.respond _
    · exact hR.respond _

theorem carries_runPipeline (hR : AdmitsLines mayReplace R) (h : host.Keeps mayReplace R)
    (p : Pipeline) : Carries R (runPipeline host p) := by
  have hopen : ∀ message : Json, message.IsOpening → Carries R (host.bus.publish message) :=
    fun message hm => h.publish message (hm.isAllowed mayReplace)
  refine Carries.bind (carries_runStages hR.toAdmits hopen p.commands []) fun output => ?_
  split
  · exact Carries.bind (fun s => hR.records s s.history []) fun _ => Carries.pure _
  · split
    · exact carries_redirect hR _ _
    · split
      · exact Carries.pure _
      · exact hR.respond _

theorem carries_run (hR : AdmitsLines mayReplace R) (h : host.Keeps mayReplace R) (line : Text) :
    Carries R (run host line) := by
  have entered : Carries R (do
      modify fun s => { s with
        history := s.history.add line, log := s.log ++ [⟨.command, line⟩] }
      if isRequest line then askAssistant host (requestPrompt line)
      else runPipeline host (Pipeline.ofLine line)) := by
    refine Carries.bind (fun s => hR.records s _ _) fun _ => ?_
    split
    · exact carries_askAssistant hR h _
    · exact carries_runPipeline hR h _
  unfold run
  split
  · exact Carries.pure _
  · exact entered

/-! ## Messages -/

section Messages

variable (hR : AdmitsCalls mayReplace R)

include hR

omit [IsCourse R] in
/-- A change that is only judged has the effect of the change asked for, or none. -/
theorem carries_refuseOr {fault : Fault} (hf : fault ≠ .noText) (m : Mutation) :
    Carries R (refuseOr fault m : Action (Session ω) Unit) := by
  intro s
  have hsettled := hR.onVolume_settle s (m.verdict s.now s.volume.root)
    (.single (.change s.now m s.volume))
  rw [refuseOr, Action.get_bind_apply]
  -- a refusal is settled as if the change were made, an acceptance is not carried out
  cases hm : m.verdict s.now s.volume.root with
  | accepted root => exact hR.fault s hf
  | unencodable content => exact hR.fault s hf
  | refused reason =>
    rw [hm] at hsettled
    dsimp only
    rw [Action.fault?_discard_apply, Action.discard_apply_snd]
    exact hsettled
  | guarded =>
    rw [hm] at hsettled
    dsimp only
    rw [Action.fault?_discard_apply, Action.discard_apply_snd]
    exact hsettled

theorem carries_refuseCollection (mutation : Text → Mutation) :
    Carries R (refuseCollection mutation : Action (Session ω) Unit) := by
  refine Carries.bind Carries.get fun s => ?_
  split
  · exact hR.throw nofun
  · exact carries_refuseOr hR (by nofun) _

theorem carries_createNamed (name : Json) (mutation : Text → Mutation) :
    Carries R (createNamed name mutation : Action (Session ω) Unit) := by
  unfold createNamed
  split
  · exact (hR.change _).discard
  · exact hR.throw nofun
  · exact carries_refuseCollection hR _

theorem carries_renameTo (path : Text) (newName : Json) :
    Carries R (renameTo path newName : Action (Session ω) Unit) := by
  unfold renameTo
  split
  · exact (hR.change _).discard
  · split
    · exact (hR.change _).discard
    · exact hR.throw nofun
  · exact carries_refuseCollection hR _

theorem carries_needText (v : Json) : Carries R (needText v : Action (Session ω) Text) := by
  unfold needText
  split
  · exact Carries.pure _
  · exact hR.throw nofun

theorem carries_createFile (parent name content : Json) :
    Carries R (createFile parent name content : Action (Session ω) Unit) := by
  refine Carries.bind (carries_needText hR parent) fun parent => ?_
  split
  · exact carries_createNamed hR _ _
  · split
    · exact carries_refuseOr hR (by nofun) _
    · exact carries_createNamed hR _ _

theorem carries_transferNode (mutation : Text → Text → Mutation) (source destination : Json) :
    Carries R (do
      let source ← needText source
      let destination ← needText destination
      discard <| change (mutation source destination) : Action (Session ω) Unit) := by
  refine Carries.bind (carries_needText hR source) fun source => ?_
  exact Carries.bind (carries_needText hR destination) fun destination => (hR.change _).discard

/-- An action of an app does to the session what is done with the fields of its payload. -/
theorem carries_appAction {appId action : Text} {serve : Entries Json → Action (Session ω) Unit}
    (h : ∀ fields, Carries R (serve fields)) (argument : Json) :
    Carries R ((appAction appId action serve).handle argument) := by
  have fields : Carries R (payloadFields argument : Action (Session ω) (Entries Json)) := by
    unfold payloadFields
    split
    · exact Carries.pure _
    · exact hR.throw nofun
  exact Carries.bind fields h

/-- Whoever serves an action does no more than what is admitted, save that those who put in a whole
tree need to be permitted that. -/
theorem carries_of_mem_volumeActions {source : Source ω} {s : Subscription (Session ω)}
    (hs : s ∈ volumeActions source)
    (hm : s.appId = none → s.action = "factoryReset" ∨ s.action = "corruptFileSystem" →
      mayReplace = true) (argument : Json) : Carries R (s.handle argument) := by
  simp only [volumeActions, List.mem_cons, List.not_mem_nil, or_false] at hs
  rcases hs with rfl | rfl | rfl | rfl | rfl | rfl | rfl | rfl | rfl
  · exact carries_appAction hR (fun fields => carries_createFile hR _ _ _) argument
  · refine carries_appAction hR (fun fields => ?_) argument
    exact Carries.bind (carries_needText hR _) fun parent => carries_createNamed hR _ _
  · refine carries_appAction hR (fun fields => ?_) argument
    exact Carries.bind (carries_needText hR _) fun path => carries_renameTo hR _ _
  · exact carries_appAction hR (fun fields => carries_transferNode hR _ _ _) argument
  · exact carries_appAction hR (fun fields => carries_transferNode hR _ _ _) argument
  · refine carries_appAction hR (fun fields => ?_) argument
    exact Carries.bind (carries_needText hR _) fun path => (hR.change _).discard
  · exact carries_appAction hR (fun fields => carries_createFile hR _ _ _) argument
  · exact hR.reset (hm rfl (.inl rfl))
  · exact hR.corrupt (hm rfl (.inr rfl)) source

theorem carries_terminalAction {run : Text → Action (Session ω) Unit}
    (h : ∀ line, Carries R (run line)) (argument : Json) :
    Carries R ((terminalAction run).handle argument) := by
  refine carries_appAction hR (fun fields => ?_) argument
  split
  · exact h _
  · split
    · exact hR.throw nofun
    · exact Carries.pure _

end Messages

end Session

/-! ## The bus -/

namespace Bus

open Session (AdmitsCalls)

variable {ω : Type} {mayReplace : Bool} {R : Session ω → Option Fault → Session ω → Prop}
  [IsCourse R]

theorem carries_deliver {argument : Json} {bus : Bus (Session ω)}
    (h : ∀ s ∈ bus, Carries R (s.handle argument)) : Carries R (deliver argument bus) := by
  induction bus with
  | nil => exact Carries.pure _
  | cons s rest ih =>
    exact Carries.bind (h s List.mem_cons_self) fun _ =>
      ih fun s hs => h s (List.mem_cons_of_mem _ hs)

theorem carries_publish (hR : AdmitsCalls mayReplace R) {bus : Bus (Session ω)} {message : Json}
    (h : ∀ fields, message = .object fields → ∀ s ∈ bus.on (Route.ofFields fields),
      Carries R (s.handle (Route.ofFields fields).argument)) :
    Carries R (bus.publish message) := by
  unfold publish
  split
  · rename_i fields
    have delivered : Carries R (do
        deliver (Route.ofFields fields).argument (bus.on (Route.ofFields fields))
        return !(bus.on (Route.ofFields fields)).isEmpty) :=
      Carries.bind (carries_deliver (h fields rfl)) fun _ => Carries.pure _
    dsimp only
    split
    · exact Carries.bind (hR.throw nofun) fun _ => delivered
    · exact delivered
  · exact hR.throw nofun

theorem ne_noText_of_confirmForApp {action payload : Json} {fault : Fault}
    (h : Reply.confirmForApp action payload = .error fault) : fault ≠ .noText := by
  have asked (key) : Reply.payloadField key payload = .error .noSuchMember ∨
      ∃ t, Reply.payloadField key payload = .ok t := by
    cases payload with
    | object fields => exact .inr ⟨_, rfl⟩
    | _ => exact .inl rfl
  rw [Reply.confirmForApp] at h
  dsimp only at h
  repeat' split at h
  · rcases asked "command" with hp | ⟨t, hp⟩ <;> rw [hp] at h <;> cases h
    nofun
  · rcases asked "fileName" with hp | ⟨t, hp⟩ <;> rw [hp] at h <;> cases h
    nofun
  · rcases asked "title" with hp | ⟨t, hp⟩ <;> rw [hp] at h <;> cases h
    nofun
  · cases h

theorem ne_noText_of_confirm {fields : Entries Json} {fault : Fault}
    (h : Reply.confirm fields = .error fault) : fault ≠ .noText := by
  rw [Reply.confirm] at h
  split at h
  · cases h
  · exact ne_noText_of_confirmForApp h

theorem carries_publishAll (hR : AdmitsCalls mayReplace R) {bus : Bus (Session ω)}
    {actions : List (Entries Json)}
    (h : ∀ fields ∈ actions, Carries R (bus.publish (.object fields))) :
    ∀ confirmation : Text, Carries R (bus.publishAll confirmation actions) := by
  induction actions with
  | nil => intro confirmation; exact Carries.pure _
  | cons fields rest ih =>
    intro confirmation
    refine Carries.bind (h fields List.mem_cons_self).discard fun _ => ?_
    cases hconfirm : Reply.confirm fields with
    | ok => exact ih (fun fields hm => h fields (List.mem_cons_of_mem _ hm)) _
    | error fault => exact hR.throw (ne_noText_of_confirm hconfirm)

theorem carries_obey (hR : AdmitsCalls mayReplace R) {bus : Bus (Session ω)} {reply : Text}
    (h : ∀ fields ∈ (Reply.ofText reply).actions, Carries R (bus.publish (.object fields))) :
    Carries R (bus.obey reply) :=
  Carries.bind (carries_publishAll hR h _) fun _ => Carries.pure _

end Bus

namespace Surroundings

open Session (AdmitsCalls AdmitsLines)

variable {ω : Type} {mayReplace : Bool} {w : Surroundings ω}

/-- Surroundings of which the volume has nothing to fear: those who listen leave it alone, and
unless whole trees may be replaced, no reply that is obeyed asks for one. -/
structure AreCalm (mayReplace : Bool) (w : Surroundings ω) : Prop where
  listeners : ∀ l ∈ w.listeners, ∀ (argument : Json) (s : Session ω),
    (l.handle argument s).2.volume = s.volume
  replies : mayReplace = true ∨ w.obeys = false ∨
    ∀ ask, w.ask = some ask → ∀ (prompt reply : Text) (o : ω), (ask prompt o).1 = .ok reply →
      ∀ fields ∈ (Reply.ofText reply).actions, Json.isDrastic (.object fields) = false

/-- Surroundings in which those who listen keep to a relation, and no reply that is obeyed asks for
more than is permitted. -/
structure Keep (mayReplace : Bool) (R : Session ω → Option Fault → Session ω → Prop)
    (w : Surroundings ω) : Prop where
  listeners : ∀ l ∈ w.listeners, ∀ argument : Json, Carries R (l.handle argument)
  replies : mayReplace = true ∨ w.obeys = false ∨
    ∀ ask, w.ask = some ask → ∀ (prompt reply : Text) (o : ω), (ask prompt o).1 = .ok reply →
      ∀ fields ∈ (Reply.ofText reply).actions, Json.isDrastic (.object fields) = false

theorem AreCalm.keep (hw : w.AreCalm mayReplace) :
    w.Keep mayReplace (Action.Along (Session.Leads mayReplace)) :=
  ⟨fun l hl argument s => Session.leads_of_volume_eq (hw.listeners l hl argument s), hw.replies⟩

variable {R : Session ω → Option Fault → Session ω → Prop} [IsCourse R]

theorem Keep.carries_publish (hw : w.Keep mayReplace R) (hR : AdmitsCalls mayReplace R)
    {run : Text → Action (Session ω) Unit} (hrun : ∀ line, Carries R (run line)) {message : Json}
    (hm : message.IsAllowed mayReplace) : Carries R ((w.busWith run).publish message) := by
  refine Bus.carries_publish hR fun fields hf s hs => ?_
  subst hf
  obtain ⟨hs, hroute⟩ := List.mem_filter.mp hs
  rcases List.mem_append.mp hs with hs | hs
  · rcases List.mem_append.mp hs with hs | hs
    · refine Session.carries_of_mem_volumeActions hR hs (fun happ haction => ?_) _
      rcases hm with hm | hm
      · exact hm
      -- the route leads to one who puts in a whole tree, which the message does not ask for
      · rw [Route.leadsTo, happ, Bool.and_eq_true] at hroute
        have : (Route.ofFields fields).isDrastic = true := by
          rcases haction with ha | ha <;> simp [Route.isDrastic, hroute.1, ← ha, hroute.2]
        rw [Json.isDrastic, this] at hm
        cases hm
    · rw [List.mem_singleton.mp hs]
      exact Session.carries_terminalAction hR hrun _
  · exact hw.listeners s hs _

theorem Keep.carries_reply (hw : w.Keep mayReplace R) (hR : AdmitsCalls mayReplace R)
    {bus : Bus (Session ω)}
    (hbus : ∀ message : Json, message.IsAllowed mayReplace → Carries R (bus.publish message))
    {ask : Text → Action ω Text} (ha : w.ask = some ask) (prompt : Text) :
    Carries R (Action.attempt (w.reply bus ask prompt)) := by
  intro s
  show R s none (w.reply bus ask prompt s).2
  have hasked : Session.onOutside (ask prompt) s =
    ((ask prompt s.outside).1, { s with outside := (ask prompt s.outside).2 }) := rfl
  rw [reply, Action.bind_apply, hasked]
  cases hreply : (ask prompt s.outside).1 with
  | error fault => exact hR.outside s _
  | ok reply =>
    refine IsCourse.trans (hR.outside s (ask prompt s.outside).2) ?_
    dsimp only
    split
    · rename_i hobeys
      refine (Carries.attempt (Bus.carries_obey hR fun fields hf => hbus _ ?_)) _
      rcases hw.replies with hr | hr | hr
      · exact .inl hr
      · rw [hr] at hobeys
        cases hobeys
      · exact .inr (hr ask ha prompt reply s.outside hreply fields hf)
    · exact IsCourse.refl _

theorem Keep.keeps_host (hw : w.Keep mayReplace R) (hR : AdmitsCalls mayReplace R)
    {run : Text → Action (Session ω) Unit} (hrun : ∀ line, Carries R (run line)) :
    (w.hostOn (w.busWith run)).Keeps mayReplace R where
  publish _ hm := hw.carries_publish hR hrun hm
  assistant ask hask prompt := by
    obtain ⟨reply, hreply, rfl⟩ := Option.map_eq_some_iff.mp hask
    exact hw.carries_reply hR (fun _ hm => hw.carries_publish hR hrun hm) hreply prompt

/-- With one more turn, the line that a message runs is one on the host with the turns that
were there before. -/
theorem Keep.keeps (hw : w.Keep mayReplace R) (hR : AdmitsLines mayReplace R) (turns : Nat) :
    (w.host turns).Keeps mayReplace R := by
  -- a line keeps to the relation if its host does, and the host of the line has one turn less
  induction turns with
  | zero => exact hw.keeps_host hR.toAdmitsCalls fun _ => hR.throw nofun
  | succ turns ih =>
    exact hw.keeps_host hR.toAdmitsCalls fun line => (Session.carries_run hR ih line).discard

end Surroundings

end VirtualShell
