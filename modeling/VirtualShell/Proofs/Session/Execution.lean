import VirtualShell.Proofs.Session.Escape
/-
  Which stages of a line are executed, and what the log keeps of the line.

  `Executes` is the execution of some stages one after another, each on the plain text of what the
  one before put out. A line that is run executes all its stages, or those before the first that
  clears the screen. In that case the log is empty at the end. Otherwise it has gained the line and
  the answer to it, if that is not empty. Commands leave the log alone, and so it is only asked of
  those who may open something for them that they do so too.
-/

namespace VirtualShell

namespace Session

variable {ω : Type} {host : Host ω}

/-! ## Stages one after another -/

/-- A stage that was executed: what it was given and what it put out, and the sessions before and
after it. -/
structure Stage (ω : Type) where
  command : Command
  input : Text
  before : Session ω
  output : Text
  after : Session ω

/-- Commands are executed, each once and in order, from the output and the session given to those
that are left. Each has the plain text of the output so far as its input. -/
inductive Executes (host : Host ω) :
    List Command → Text → Session ω → List (Stage ω) → Text → Session ω → Prop
  | done (output : Text) (s : Session ω) : Executes host [] output s [] output s
  | stage {command : Command} {rest : List Command} {output next last : Text}
    {s s' s'' : Session ω} {trace : List (Stage ω)} :
    runStage host command (Markup.strip output) s = (.ok next, s') →
    Executes host rest next s' trace last s'' →
    Executes host (command :: rest) output s
      (⟨command, Markup.strip output, s, next, s'⟩ :: trace) last s''

/-- The commands before the first that clears the screen. -/
def beforeClear (commands : List Command) : List Command :=
  commands.takeWhile fun command => !clears command

theorem beforeClear_cons {command : Command} {rest : List Command} :
    beforeClear (command :: rest) =
      if clears command then [] else command :: beforeClear rest := by
  rw [beforeClear, List.takeWhile_cons]
  cases clears command <;> rfl

/-- Stages that come to an end have been executed up to the first that clears the screen. -/
theorem exists_executes_of_runStages {commands : List Command} {output : Text} {s s' : Session ω}
    {r : Option Text} (h : runStages host commands output s = (.ok r, s')) :
    ∃ trace last, Executes host (beforeClear commands) output s trace last s' ∧
      r = if commands.any clears then none else some last := by
  induction commands generalizing output s with
  | nil =>
    cases h
    exact ⟨[], output, .done output s', rfl⟩
  | cons command rest ih =>
    rw [runStages] at h
    rw [beforeClear_cons, List.any_cons]
    by_cases hclears : clears command = true
    · rw [if_pos hclears] at h
      cases h
      rw [hclears]
      exact ⟨[], output, .done output s', rfl⟩
    · rw [if_neg hclears, Action.bind_apply] at h
      rw [Bool.eq_false_iff.mpr hclears]
      rcases hstage : runStage host command (Markup.strip output) s with ⟨fault | next, s₁⟩
      · rw [hstage] at h
        cases h
      · rw [hstage] at h
        obtain ⟨trace, last, hrest, hr⟩ := ih h
        exact ⟨⟨command, Markup.strip output, s, next, s₁⟩ :: trace, last, .stage hstage hrest, hr⟩

/-! ## The log -/

/-- What the log keeps of an answer. -/
def logged (answer : Text) : List LogLine :=
  if answer = [] then [] else [⟨.response, answer⟩]

theorem error_ne_nil (t : Text) : Markup.error t ≠ [] := by
  simp [Markup.error, Markup.red, Text.ofString]

/-- Output that goes to no file is the answer, and is logged as such. -/
theorem answer_eq (output : Text) (s : Session ω) :
    (if output = [] then return [] else respond output : Action (Session ω) Text) s =
      (.ok output, { s with log := s.log ++ logged output }) := by
  by_cases h : output = []
  · rw [if_pos h, h, logged, if_pos rfl, List.append_nil]
    rfl
  · rw [if_neg h, logged, if_neg h]
    rfl

/-- A redirection that ends without a fault logs what it answers. -/
theorem log_of_redirect {target content t : Text} {s s' : Session ω}
    (h : redirect target content s = (.ok t, s')) : s'.log = s.log ++ logged t := by
  rw [redirect_eq] at h
  generalize Volume.settle _ s.volume = settled at h
  obtain ⟨_ | _ | _, v⟩ := settled
  · cases h
  · cases h
    rw [logged, if_neg (error_ne_nil _)]
  · cases h
    rw [logged, if_pos rfl, List.append_nil]

/-! ## The result -/

/-- A line that is run on a host where those who may open something leave the records of a session
alone. A blank one changes nothing. Any other that is no request executes the stages before the
first that clears the screen, each once and in order, from the session with the line entered. If
there is one that clears the screen, this is all, and the log is empty. Otherwise the output of the
last stage is the answer or goes to the target, and the log has gained the line and the answer,
unless that is empty. -/
theorem logged_of_run {host : Host ω} (hquiet : host.OpenersKeep SameRecords) (s : Session ω)
    (line : Text) :
    (line.isBlank = true → run host line s = (.ok [], s)) ∧
      (line.isBlank = false → isRequest line = false → ∀ t s', run host line s = (.ok t, s') →
        let p := Pipeline.ofLine line
        ∃ trace output end', Executes host (beforeClear p.commands) [] (entered line s) trace
            output end' ∧
          if p.commands.any clears then t = Markup.clearScreen ∧ s' = { end' with log := [] }
          else s'.log = s.log ++ ⟨.command, line⟩ :: logged t ∧
            match p.redirect with
            | none => t = output ∧ s' = { end' with log := s'.log }
            | some target => redirect target (Markup.strip output) end' = (.ok t, s')) := by
  refine ⟨fun hblank => by rw [run, if_pos hblank]; rfl, fun hblank hrequest t s' hrun => ?_⟩
  intro p
  rw [run_eq_runPipeline hblank hrequest, runPipeline, Action.bind_apply] at hrun
  rcases hstages : runStages host p.commands [] (entered line s) with ⟨fault | r, end'⟩
  · rw [hstages] at hrun
    cases hrun
  · obtain ⟨trace, output, hexecutes, hr⟩ := exists_executes_of_runStages hstages
    refine ⟨trace, output, end', hexecutes, ?_⟩
    rw [hstages, hr] at hrun
    split
    · rename_i hclears
      rw [if_pos hclears] at hrun
      cases hrun
      exact ⟨rfl, rfl⟩
    · rename_i hclears
      rw [if_neg hclears] at hrun
      dsimp only at hrun
      -- the stages have left the log as it was when they began
      have hlog : end'.log = s.log ++ [⟨.command, line⟩] := by
        have hkept := sameRecords_runStages hquiet p.commands [] (entered line s)
        rw [hstages] at hkept
        exact hkept.2
      cases hredirect : p.redirect with
      | some target =>
        rw [hredirect] at hrun
        refine ⟨?_, hrun⟩
        rw [log_of_redirect hrun, hlog, List.append_assoc]
        rfl
      | none =>
        rw [hredirect] at hrun
        have hanswer := (answer_eq output end').symm.trans hrun
        cases hanswer
        refine ⟨?_, rfl, rfl⟩
        dsimp only
        rw [hlog, List.append_assoc]
        rfl

/-- A line that is cleared half way through, and one of which the first stage fails and the second
prints why. -/
theorem logged_of_run_of_boom :
    let w := Surroundings.deserted
    let first : Session Unit := start
      ⟨Node.defaultTree 0, false, none, Store.empty, Volume.defaultKey⟩ {} History.usualLimit 1 ()
    let cleared := run (w.host 0) "mkdir /a | CLEAR | mkdir /b > /c" first
    let printed := run (w.host 0) "open x | cat" first
    (w.host 0).OpenersKeep SameRecords ∧
      cleared.1 = .ok Markup.clearScreen ∧ cleared.2.log = [] ∧
      cleared.2.volume.has "/a" = true ∧ cleared.2.volume.has "/b" = false ∧
      cleared.2.volume.has "/c" = false ∧
      printed.1 = .ok "open: boom" ∧ printed.2.log = first.log ++
        [⟨.command, "open x | cat"⟩, ⟨.response, "open: boom"⟩] := by
  intro w first cleared printed
  have hquiet : (w.host 0).OpenersKeep SameRecords :=
    Surroundings.leaveRecords_deserted.openersKeep 0
  have hfound : cleared.1.toOption = some Markup.clearScreen ∧
      printed.1.toOption = some (Text.ofString "open: boom") := by decide +kernel
  have hplaces : cleared.2.volume.has "/a" = true ∧ cleared.2.volume.has "/b" = false ∧
      cleared.2.volume.has "/c" = false := by decide +kernel
  have answered {r : Except Fault Text × Session Unit} {t : Text} (h : r.1.toOption = some t) :
      r = (.ok t, r.2) := by
    obtain ⟨_ | t', s'⟩ := r
    · cases h
    · cases h
      rfl
  obtain ⟨_, _, _, _, hcleared⟩ := (logged_of_run hquiet first _).2 (by decide +kernel)
    (by decide +kernel) _ _ (answered hfound.1)
  obtain ⟨_, _, _, _, hprinted⟩ := (logged_of_run hquiet first _).2 (by decide +kernel)
    (by decide +kernel) _ _ (answered hfound.2)
  rw [if_pos (by decide +kernel)] at hcleared
  rw [if_neg (by decide +kernel)] at hprinted
  have hlog : cleared.2.log = [] := by rw [hcleared.2]
  exact ⟨hquiet, congrArg Prod.fst (answered hfound.1), hlog, hplaces.1, hplaces.2.1, hplaces.2.2,
    congrArg Prod.fst (answered hfound.2), hprinted.1⟩

end Session

end VirtualShell
