import VirtualShell.Proofs.Session.Execution
import VirtualShell.Proofs.Session.Lookup
import VirtualShell.Proofs.Session.PathArgument
/-
  What the working directory changes by.

  There is one command that goes to another directory, and it goes to none but those that are there.
  `MovesByCd` follows this from the commands up: to lines, whose stages are commands, to messages,
  one of which runs a line, and to lines for the assistant, whose reply publishes messages. What
  listeners do is up to them, so it is said throughout in terms of a relation that they keep to,
  which may be that the working directory stays.
-/

namespace VirtualShell

open VirtualShell.Action (Carries Along)

namespace Session

variable {ω : Type} {host : Host ω} {R : Session ω → Session ω → Prop} {s s' : Session ω}

/-- A relation for what others do to the working directory. It goes over from step to step, and it
holds where the working directory stays. -/
class IsDrift (R : Session ω → Session ω → Prop) : Prop extends IsPreorder (Session ω) R where
  stays {s s' : Session ω} : s'.cwd = s.cwd → R s s'

/-- The working directory stays. -/
def SameDirectory (s s' : Session ω) : Prop := s'.cwd = s.cwd

instance : IsDrift (@SameDirectory ω) where
  refl _ := rfl
  trans _ _ _ h h' := Eq.trans h' h
  stays h := h

theorem admitsCalls_of_isDrift [IsDrift R] : AdmitsCalls true (Along R) where
  fault _ _ _ := IsDrift.stays rfl
  noText _ _ := IsDrift.stays rfl
  volume _ _ _ _ _ := IsDrift.stays rfl
  outside _ _ := IsDrift.stays rfl

/-- A command has gone to a directory and done nothing else. Its target was there, and the path of
what was there is the working directory now. -/
structure GoesTo (name : Text) (args : List Text) (s s' : Session ω) : Prop where
  name : name.lower = "cd"
  target : ∃ d, s.volume.directory? (s.resolve (args.headD Path.root)) = some d ∧ d.path = s'.cwd
  rest : s' = { s with cwd := s'.cwd }

/-! ## Commands and stages -/

theorem path_of_directory? (hcwd : Path.IsNormal s.cwd) (hc : s.volume.root.IsConsistent)
    {path : Text} {d : Node} (h : s.volume.directory? (s.resolve path) = some d) :
    d.path = s.resolve path := by
  obtain ⟨-, hpath, -⟩ := (Volume.directory?_eq_some_iff hc).mp h
  rw [hpath]
  exact (Path.isNormal_resolve path hcwd).normalize_eq

/-- No command but the one for it goes to a directory, and that goes to one that is there. -/
theorem drifts_or_goesTo_of_dispatch [IsDrift R] (hopen : host.OpenersKeep R)
    (hcwd : Path.IsNormal s.cwd) (hc : s.volume.root.IsConsistent) (name : Text)
    (args : List Text) (input : Text) :
    R s (dispatch host name args input s).2 ∨
      GoesTo name args s (dispatch host name args input s).2 := by
  by_cases hname : name.lower = "cd"
  · rw [dispatch_of_mem (c := Builtin.cd) (by simp [Builtin.table, Builtin.others]) hname]
    unfold Builtin.cd
    dsimp only
    rw [Action.get_bind_apply]
    cases hd : s.volume.directory? (s.resolve (args.headD Path.root)) with
    | none => exact .inl (IsDrift.stays rfl)
    | some d => exact .inr ⟨hname, ⟨d, hd, path_of_directory? hcwd hc hd⟩, rfl⟩
  · exact .inl (carries_dispatch_of_ne admitsCalls_of_isDrift
      (fun _ hm => hopen.publish admitsCalls_of_isDrift hm) hname args input s)

theorem runStage_snd (host : Host ω) (command : Command) (input : Text) (s : Session ω) :
    (runStage host command input s).2 = (dispatch host command.name command.args input s).2 := by
  rw [runStage, Action.bind_apply, Action.attempt_apply]
  dsimp only
  cases (dispatch host command.name command.args input s).1 with
  | ok => rfl
  | error fault => cases fault <;> rfl

/-- Each stage that is executed finds a session in order with a consistent tree, whatever those
before it did. -/
theorem drifts_or_goesTo_of_executes [IsDrift R] (hopen : host.OpenersKeep R)
    (horderly : ∀ message : Json, message.IsOpening →
      Carries Proceeds (host.bus.publish message))
    {commands : List Command} {output last : Text} {trace : List (Stage ω)}
    (h : Executes host commands output s trace last s') (hs : s.IsInOrder)
    (hc : s.volume.root.IsConsistent) :
    ∀ e ∈ trace, R e.before e.after ∨ GoesTo e.command.name e.command.args e.before e.after := by
  -- the order of the session and the consistency of its tree are carried from stage to stage
  induction h with
  | done => exact fun _ he => absurd he List.not_mem_nil
  | @stage command rest output next last s s₁ s' trace hstage _ ih =>
    have hproceeds := carries_runStage admitsLines_proceeds.toAdmits horderly command
      (Markup.strip output) s
    have hafter := runStage_snd host command (Markup.strip output) s
    rw [hstage] at hproceeds hafter
    refine List.forall_mem_cons.mpr ⟨?_, ih (hproceeds.inOrder hs)
      (Volume.Run.isConsistent hproceeds.leads hc)⟩
    have hdispatch := drifts_or_goesTo_of_dispatch hopen hs.cwd hc command.name command.args
      (Markup.strip output)
    rwa [← hafter] at hdispatch

/-! ## Lines -/

theorem cwd_redirect (target content : Text) (s : Session ω) :
    (redirect target content s).2.cwd = s.cwd := by
  rw [redirect_eq]
  generalize Volume.settle _ s.volume = settled
  obtain ⟨_ | _ | _, v⟩ := settled <;> rfl

/-- Once the stages have come to an end the working directory stays. -/
theorem cwd_runPipeline {p : Pipeline} {r : Option Text}
    (h : runStages host p.commands [] s = (.ok r, s')) : (runPipeline host p s).2.cwd = s'.cwd := by
  rw [runPipeline, Action.bind_apply, h]
  cases r with
  | none => rfl
  | some output =>
    dsimp only
    cases p.redirect with
    | some target => exact cwd_redirect target _ s'
    | none => exact congrArg (fun r => r.2.cwd) (answer_eq output s')

end Session

/-! ## Replies and messages -/

/-- A route to somebody who serves an action of an app has the names of both for texts. -/
theorem Route.eq_of_leadsTo {σ : Type} {route : Route} {s : Subscription σ} {appId : Text}
    (happ : s.appId = some appId) (h : route.leadsTo s = true) :
    route = ⟨.text appId, .text s.action, route.argument⟩ := by
  obtain ⟨app, action, argument⟩ := route
  rw [leadsTo, happ, Bool.and_eq_true] at h
  obtain ⟨hnames, haction⟩ := h
  have happ' : app = .text appId := by cases app <;> simp_all [namesApp]
  have haction' : action = .text s.action := by cases action <;> simp_all [namesAction]
  rw [happ', haction']

namespace Bus

variable {σ : Type}

/-- Actions published one after another: the session is the one after some of the first of them, all
of them unless the call is cut short. -/
theorem exists_published (bus : Bus σ) (actions : List (Entries Json)) :
    ∀ (confirmation : Text) (s : σ), ∃ published, published <+: actions ∧
      (bus.publishAll confirmation actions s).2 =
        published.foldl (fun s fields => (bus.publish (.object fields) s).2) s := by
  induction actions with
  | nil => exact fun _ s => ⟨[], List.prefix_rfl, rfl⟩
  | cons fields rest ih =>
    intro confirmation s
    have hpublish := Action.discard_apply_snd (bus.publish (.object fields)) s
    rw [publishAll, Action.bind_apply]
    rcases hresult : (discard (bus.publish (.object fields)) : Action σ PUnit) s with
      ⟨fault | made, s'⟩
    · rw [hresult] at hpublish
      exact ⟨[fields], by simp, hpublish⟩
    · rw [hresult] at hpublish
      dsimp only at hpublish ⊢
      cases Reply.confirm fields with
      | error fault => exact ⟨[fields], by simp, hpublish⟩
      | ok confirmation =>
        obtain ⟨published, hprefix, heq⟩ := ih confirmation s'
        refine ⟨fields :: published, List.cons_prefix_cons.mpr ⟨rfl, hprefix⟩, ?_⟩
        rw [List.foldl_cons, ← hpublish]
        exact heq

end Bus

namespace Session

variable {ω : Type} {R : Session ω → Session ω → Prop} {s : Session ω} {w : Surroundings ω}

/-- A reply that is asked for and, if replies are, obeyed: where it is, the session is the one after
some of its first messages. -/
theorem cwd_reply (bus : Bus (Session ω)) (ask : Text → Action ω Text) (prompt : Text)
    (s : Session ω) :
    (w.reply bus ask prompt s).2.cwd = s.cwd ∨ ∃ reply o published, w.obeys = true ∧
      ask prompt s.outside = (.ok reply, o) ∧ published <+: (Reply.ofText reply).actions ∧
      (w.reply bus ask prompt s).2.cwd = (published.foldl
        (fun s fields => (bus.publish (.object fields) s).2) { s with outside := o }).cwd := by
  have hasked : onOutside (ask prompt) s =
    ((ask prompt s.outside).1, { s with outside := (ask prompt s.outside).2 }) := rfl
  rw [Surroundings.reply, Action.bind_apply, hasked]
  rcases ask prompt s.outside with ⟨fault | reply, o⟩
  · exact .inl rfl
  · dsimp only
    by_cases hobeys : w.obeys = true
    · rw [if_pos hobeys, Bus.obey, Action.bind_apply]
      obtain ⟨published, hprefix, heq⟩ :=
        bus.exists_published (Reply.ofText reply).actions [] { s with outside := o }
      refine .inr ⟨reply, o, published, hobeys, rfl, hprefix, ?_⟩
      rw [← heq]
      rcases bus.publishAll [] (Reply.ofText reply).actions _ with ⟨_ | _, _⟩ <;> rfl
    · rw [if_neg hobeys]
      exact .inl rfl

theorem cwd_askAssistant (turns : Nat) (prompt : Text) (s : Session ω) :
    let r := askAssistant (w.host turns) prompt s
    r.2.cwd = s.cwd ∨ ∃ ask, w.ask = some ask ∧
      r.2.cwd = (w.reply (w.bus turns) ask prompt s).2.cwd := by
  intro r
  have hr : r = askAssistant (w.host turns) prompt s := rfl
  have hassistant : (w.host turns).assistant = w.ask.map (w.reply (w.bus turns)) := rfl
  rw [askAssistant, hassistant] at hr
  cases hask : w.ask with
  | none =>
    rw [hr, hask]
    exact .inl rfl
  | some ask =>
    refine .inr ⟨ask, rfl, ?_⟩
    rw [hr, hask]
    dsimp only [Option.map_some]
    rw [Action.bind_apply, Action.attempt_apply]
    dsimp only
    cases (w.reply (w.bus turns) ask prompt s).1 with
    | ok => rfl
    | error => rfl

/-- A message that asks the terminal to run a line. -/
def AsksToRun (message : Json) (line : Text) : Prop :=
  ∃ fields payload, message = .object fields ∧ Route.ofFields fields =
      ⟨.text "terminal", .text "executeTerminalCommand", .object payload⟩ ∧
    field "command" payload = .text line

theorem payloadFields_object (payload : Entries Json) :
    (payloadFields (.object payload) : Action (Session ω) (Entries Json)) = pure payload := rfl

theorem handle_terminalAction {payload : Entries Json} {line : Text}
    (h : field "command" payload = .text line) (run : Text → Action (Session ω) Unit) :
    (terminalAction run).handle (.object payload) = run line := by
  rw [terminalAction, appAction]
  dsimp only
  rw [payloadFields_object, pure_bind, h]

/-- Where no line is given there is nothing to run. -/
theorem carries_terminalAction_of_no_line {Q : Session ω → Option Fault → Session ω → Prop}
    [Action.IsCourse Q] (hQ : AdmitsCalls true Q) {argument : Json}
    (h : ∀ payload, argument = .object payload → ∀ line, field "command" payload ≠ .text line)
    (run : Text → Action (Session ω) Unit) : Carries Q ((terminalAction run).handle argument) := by
  cases argument with
  | object payload =>
    rw [terminalAction, appAction]
    dsimp only
    rw [payloadFields_object, pure_bind]
    split
    · rename_i line hline
      exact absurd hline (h payload rfl line)
    · split
      · exact hQ.throw nofun
      · exact Carries.pure _
  | _ => exact hQ.throw nofun

end Session

namespace Surroundings

open Session (IsDrift AsksToRun admitsCalls_of_isDrift)

variable {ω : Type} {R : Session ω → Session ω → Prop} {s : Session ω} {w : Surroundings ω}

/-- Those who listen do nothing to a session but what a relation allows. -/
def ListenersKeep (R : Session ω → Session ω → Prop) (w : Surroundings ω) : Prop :=
  ∀ l ∈ w.listeners, ∀ (argument : Json) (s : Session ω), R s (l.handle argument s).2

/-- A message that runs a line: after the line it is the turn of the listeners. -/
theorem publish_of_asksToRun [IsDrift R] (hw : w.ListenersKeep R)
    (run : Text → Action (Session ω) Unit) {message : Json} {line : Text}
    (h : AsksToRun message line) (s : Session ω) :
    R (run line s).2 ((w.busWith run).publish message s).2 := by
  obtain ⟨fields, payload, rfl, hroute, hline⟩ := h
  -- of those who serve the session only the terminal is on the route, and it is called first
  let route : Route := ⟨.text "terminal", .text "executeTerminalCommand", .object payload⟩
  have hothers : (Session.volumeActions w.source).filter route.leadsTo = [] := rfl
  have hterminal : [Session.terminalAction run].filter route.leadsTo =
    [Session.terminalAction run] := rfl
  have hon : (w.busWith run).on route =
      Session.terminalAction run :: w.listeners.filter route.leadsTo := by
    rw [Bus.on, busWith, List.filter_append, List.filter_append, hothers, hterminal]
    rfl
  have hpublish : ((w.busWith run).publish (.object fields) s).2 =
      (Bus.deliver (.object payload) ((w.busWith run).on route) s).2 := by
    rw [Bus.publish, hroute]
    show ((Bus.deliver (.object payload) ((w.busWith run).on route) >>= fun _ => _) s).2 = _
    rw [Action.bind_apply]
    rcases Bus.deliver (.object payload) ((w.busWith run).on route) s with ⟨_ | _, _⟩ <;> rfl
  rw [hpublish, hon, Bus.deliver, Session.handle_terminalAction hline, Action.bind_apply]
  rcases run line s with ⟨fault | u, s'⟩
  · exact IsDrift.stays rfl
  · exact Bus.carries_deliver (R := Along R)
      (fun l hl s => hw l (List.mem_of_mem_filter hl) _ s) s'

/-- Other messages leave the working directory to the listeners. -/
theorem publish_of_not_asksToRun [IsDrift R] (hw : w.ListenersKeep R)
    (run : Text → Action (Session ω) Unit) {message : Json}
    (h : ∀ line, ¬AsksToRun message line) (s : Session ω) :
    R s ((w.busWith run).publish message s).2 := by
  refine Bus.carries_publish (R := Along R) admitsCalls_of_isDrift ?_ s
  rintro fields rfl l hl
  obtain ⟨hl, hroute⟩ := List.mem_filter.mp hl
  rcases List.mem_append.mp hl with hl | hl
  · rcases List.mem_append.mp hl with hl | hl
    · exact Session.carries_of_mem_volumeActions admitsCalls_of_isDrift hl (fun _ _ => rfl) _
    · rw [List.mem_singleton.mp hl] at hroute ⊢
      refine Session.carries_terminalAction_of_no_line admitsCalls_of_isDrift ?_ run
      intro payload hpayload line hline
      have heq := Route.eq_of_leadsTo rfl hroute
      rw [hpayload] at heq
      exact h line ⟨fields, payload, rfl, heq, hline⟩
  · exact hw l hl _

/-- A message leaves the working directory to the listeners, unless it runs a line. -/
theorem drifts_or_runs_of_publish [IsDrift R] (hw : w.ListenersKeep R) (turns : Nat)
    (message : Json) (s : Session ω) :
    R s ((w.bus turns).publish message s).2 ∨ ∃ before line, turns = before + 1 ∧
      AsksToRun message line ∧
      R (Session.run (w.host before) line s).2 ((w.bus turns).publish message s).2 := by
  by_cases h : ∃ line, AsksToRun message line
  · obtain ⟨line, hline⟩ := h
    cases turns with
    | zero =>
      -- no turns are left, so the line fails at once
      have hpublish := publish_of_asksToRun hw (fun _ => throw .endless) hline s
      rw [bus]
      exact .inl hpublish
    | succ before =>
      have hpublish := publish_of_asksToRun hw
        (fun line => discard <| Session.run (w.hostOn (w.bus before)) line) hline s
      rw [Action.discard_apply_snd] at hpublish
      exact .inr ⟨before, line, rfl, hline, hpublish⟩
  · obtain ⟨run, hbus⟩ := w.exists_bus_eq turns
    rw [show w.bus turns = _ from hbus]
    exact .inl (publish_of_not_asksToRun hw run (fun line hline => h ⟨line, hline⟩) s)

end Surroundings

namespace Session

variable {ω : Type} {s : Session ω}

/-! ## The result -/

/-- A session as a command may find it: one in use, or what commands have made of one so far. -/
inductive Met : Session ω → Prop
  | underway {s : Session ω} : Underway s → Met s
  | command {s : Session ω} {w : Surroundings ω} (turns : Nat) (name : Text) (args : List Text)
    (input : Text) : w.AreOrderly → Met s → Met (dispatch (w.host turns) name args input s).2

theorem Met.isInOrder_and_isConsistent (h : Met s) :
    s.IsInOrder ∧ s.volume.root.IsConsistent := by
  induction h with
  | underway h => exact ⟨h.isInOrder, h.isConsistent⟩
  | @command s w turns name args input hw _ ih =>
    have hproceeds := carries_dispatch admitsLines_proceeds.toAdmits
      (fun message hm => (hw.keeps turns).publish message (hm.isAllowed true)) name args input s
    exact ⟨hproceeds.inOrder ih.1, Volume.Run.isConsistent hproceeds.leads ih.2⟩

/-- In the session `s` the working directory changes by nothing but going to a directory that is
there, and by what listeners do. Of all that is done in using the session only lines and messages
can change it. A line leaves it where the last of its stages does, if it is a pipeline, or else the
last of the messages that it publishes. A message leaves it alone or where the line that it runs
does. -/
structure MovesByCd (s : Session ω) : Prop where
  use (s' : Session ω) : Use s s' → s'.cwd = s.cwd ∨
    (∃ (w : Surroundings ω) (turns : Nat) (line : Text), w.AreOrderly ∧
      s' = (run (w.host turns) line s).2) ∨
    ∃ (w : Surroundings ω) (turns : Nat) (message : Json), w.AreOrderly ∧
      s' = ((w.bus turns).publish message s).2
  command {R : Session ω → Session ω → Prop} [IsDrift R] {host : Host ω} : host.OpenersKeep R →
    ∀ (name : Text) (args : List Text) (input : Text),
      R s (dispatch host name args input s).2 ∨
        GoesTo name args s (dispatch host name args input s).2
  blank (host : Host ω) (line : Text) : line.isBlank = true → (run host line s).2.cwd = s.cwd
  pipeline {R : Session ω → Session ω → Prop} [IsDrift R] {w : Surroundings ω} : w.AreOrderly →
    w.ListenersKeep R → ∀ (turns : Nat) (line : Text), line.isBlank = false →
      isRequest line = false → ∃ trace output last,
        Executes (w.host turns) (beforeClear (Pipeline.ofLine line).commands) [] (entered line s)
          trace output last ∧
        (run (w.host turns) line s).2.cwd = last.cwd ∧ ∀ e ∈ trace,
          R e.before e.after ∨ GoesTo e.command.name e.command.args e.before e.after
  request (w : Surroundings ω) (turns : Nat) (line : Text) : line.isBlank = false →
    isRequest line = true → let r := run (w.host turns) line s
      r.2.cwd = s.cwd ∨ ∃ ask reply o published, w.ask = some ask ∧ w.obeys = true ∧
        ask (requestPrompt line) s.outside = (.ok reply, o) ∧
        published <+: (Reply.ofText reply).actions ∧
        r.2.cwd = (published.foldl (fun s fields => ((w.bus turns).publish (.object fields) s).2)
          { entered line s with outside := o }).cwd
  message {R : Session ω → Session ω → Prop} [IsDrift R] {w : Surroundings ω} :
    w.ListenersKeep R → ∀ (turns : Nat) (message : Json),
      let r := (w.bus turns).publish message s
      R s r.2 ∨ ∃ before line, turns = before + 1 ∧ AsksToRun message line ∧
        R (run (w.host before) line s).2 r.2

theorem movesByCd (hs : s.IsInOrder) (hc : s.volume.root.IsConsistent) : s.MovesByCd where
  use s' h := by
    cases h with
    | aside _ _ hcwd => exact .inl hcwd
    | change => exact .inl rfl
    | reset => exact .inl rfl
    | corrupt => exact .inl rfl
    | line turns line _ hw => exact .inr (.inl ⟨_, turns, line, hw, rfl⟩)
    | message turns message _ hw => exact .inr (.inr ⟨_, turns, message, hw, rfl⟩)
  command hopen name args input := drifts_or_goesTo_of_dispatch hopen hs.cwd hc name args input
  blank host line hblank := by rw [run, if_pos hblank]; rfl
  pipeline {R _ w} hw hlisteners turns line hblank hrequest := by
    have hopen (message : Json) (hm : message.IsOpening) :=
      (hw.keeps turns).publish message (hm.isAllowed true)
    have hentered : (entered line s).IsInOrder := ⟨hs.user, hs.cwd⟩
    obtain ⟨r, last, hstages, -, -⟩ := stages_end hopen (Pipeline.ofLine line).commands [] hentered
    obtain ⟨trace, output, hexecutes, -⟩ := exists_executes_of_runStages hstages
    refine ⟨trace, output, last, hexecutes, ?_, drifts_or_goesTo_of_executes
      (Surroundings.openersKeep hlisteners turns) hopen hexecutes hentered hc⟩
    rw [run_eq_runPipeline hblank hrequest]
    exact cwd_runPipeline hstages
  request w turns line hblank hrequest := by
    intro r
    have hr : r = askAssistant (w.host turns) (requestPrompt line) (entered line s) :=
      run_eq_askAssistant hblank hrequest s
    rcases cwd_askAssistant (w := w) turns (requestPrompt line) (entered line s) with
      h | ⟨ask, hask, h⟩
    · exact .inl (by rw [hr, h]; rfl)
    · rw [← hr] at h
      rcases cwd_reply (w.bus turns) ask (requestPrompt line) (entered line s) with
        hreply | ⟨reply, o, published, hobeys, hasked, hprefix, hreply⟩
      · exact .inl (h.trans hreply)
      · exact .inr ⟨ask, reply, o, published, hask, hobeys, hasked, hprefix, h.trans hreply⟩
  message hlisteners turns message :=
    Surroundings.drifts_or_runs_of_publish hlisteners turns message s

/-- In every session in use, also between the stages of a line, the working directory is a normal
path. It changes by nothing but going to a directory that is there, and a path does the same as what
it means in the working directory, wherever that may have got to. -/
theorem Met.moves_and_reads (h : Met s) :
    Path.IsNormal s.cwd ∧ s.MovesByCd ∧ s.ReadsPaths := by
  obtain ⟨hs, hc⟩ := h.isInOrder_and_isConsistent
  exact ⟨hs.cwd, movesByCd hs hc, readsPaths_of_isNormal hs.cwd⟩

/-- The working directory has been removed: it stays where it is until there is a `cd`, and paths
are resolved in it as before. -/
theorem moves_and_reads_in_lost_directory :
    let w := Surroundings.deserted
    let first : Session Unit := start
      ⟨Node.defaultTree 0, false, none, Store.empty, Volume.defaultKey⟩ {} History.usualLimit 1 ()
    let went := (run (w.host 0) "cd /a" (run (w.host 0) "mkdir /a" first).2).2
    let s := (change (.delete "/a") went).2
    Met s ∧ s.cwd = "/a" ∧ s.volume.has "/a" = false ∧ Path.IsNormal s.cwd ∧
      (∀ name args input, Text.lower name ≠ "cd" →
        (dispatch (w.host 0) name args input s).2.cwd = "/a") ∧
      SameRun "../b/./x" "/b/x" (dispatch (w.host 0) "MkDir" ["../b/./x"] [] s)
        (dispatch (w.host 0) "MkDir" ["/b/x"] [] s) := by
  intro w first went s
  have hw : w.AreOrderly := Surroundings.areOrderly_deserted
  have hload : Volume.load 0 Store.empty Volume.defaultKey = .ok first.volume := rfl
  have h : Met s := .underway ⟨_, _, _, _, _, .load hload, rfl,
    .tail (.tail (.single (.line 0 "mkdir /a" first hw)) (.line 0 "cd /a" _ hw)) (.change _ _)⟩
  have hcwd : s.cwd = "/a" := by decide +kernel
  have hopen : (w.host 0).OpenersKeep SameDirectory := by
    refine Surroundings.openersKeep (fun l hl argument s => ?_) 0
    rw [List.mem_singleton.mp hl]
    rfl
  obtain ⟨hnormal, hmoves, hreads⟩ := Met.moves_and_reads h
  refine ⟨h, hcwd, by decide +kernel, hnormal, fun name args input hname => ?_, ?_⟩
  · rcases hmoves.command hopen name args input with hstays | hgoes
    · exact hstays.trans hcwd
    · exact absurd hgoes.name hname
  · have hsame := hreads.command (w.host 0) (by decide : (Text.lower "MkDir", 0) ∈ pathPlaces)
      ["../b/./x"] [] "../b/./x" rfl
    have hresolve : s.resolve "../b/./x" = "/b/x" := by
      rw [resolve, hcwd]
      decide
    rwa [hresolve] at hsame

end Session

end VirtualShell
