import VirtualShell.Proofs.FileSystem.Redirection
import VirtualShell.Proofs.Session.Underway
/-
  Lines whose output goes to a file.

  The stages of such a line always come to an end with some output, whatever fails in them: a fault
  is put into words where it comes up, save the lack of any output, and that does not come up where
  there is a user. What is done with the output is then settled by the path that the target means
  in the working directory that the stages leave, and by what stands there: `IsRedirected` says
  what that is in each case, whether the store takes the snapshot or not.
-/

namespace VirtualShell

namespace Redirection

/-- Why the output was not put into the file, in words; `target` is how the file was named. -/
def reason? (target : Text) : Redirection → Option Text
  | writeProtected => some (target ++ " is write-protected.")
  | isDirectory => some (target ++ " is a directory.")
  | noDirectory => some "Directory does not exist."
  | overwritten | created => none

/-- What is put out in place of the output. -/
def reply (target : Text) (d : Redirection) : Text := ((d.reason? target).map Markup.error).getD []

/-- What is put into the log. -/
def logged (target : Text) (d : Redirection) : List LogLine :=
  ((d.reason? target).map fun t => ⟨.response, Markup.error t⟩).toList

end Redirection

namespace Session

open VirtualShell.Action (Carries IsCourse)

variable {ω : Type}

/-- What a redirection does in the session `s`, in the case given. Where a snapshot is written it is
that of the volume left, and the answer waits for the store to take it; all else is done before. -/
structure IsRedirected (target content : Text) (s : Session ω)
    (r : Except Fault Text × Session ω) (d : Redirection) : Prop where
  tree : d.Edits s.now (s.resolve target) content s.volume.root r.2.volume.root
  mark : r.2.volume.corrupted = (s.volume.corrupted || d = .writeProtected)
  history : r.2.history = s.history
  store : r.2.volume.store =
    if d.writes then (s.volume.store.write s.volume.key r.2.volume.toJson).2 else s.volume.store
  answer : (d.writes = true → (s.volume.store.write s.volume.key r.2.volume.toJson).1 = .ok ()) →
    r.1 = .ok (d.reply target) ∧ r.2.log = s.log ++ d.logged target
  fault : ∀ f, d.writes = true →
    (s.volume.store.write s.volume.key r.2.volume.toJson).1 = .error f →
    r.1 = .error (.store f) ∧ r.2.log = s.log

variable {s : Session ω} {target content : Text} {d : Redirection}

/-! ## What a redirection does -/

/-- The end of a redirection, given what came of the change. -/
def redirectedBy (target : Text) (s : Session ω) : Except Fault Bool × Volume →
    Except Fault Text × Session ω
  | (.ok true, v) => (.ok [], { s with volume := v })
  | (.ok false, v) =>
    let t := Markup.error (redirectFailure v target (s.resolve target))
    (.ok t, { s with volume := v, log := s.log ++ [⟨.response, t⟩] })
  | (.error fault, v) => (.error fault, { s with volume := v })

theorem redirect_eq (target content : Text) (s : Session ω) :
    redirect target content s = redirectedBy target s (Volume.settle
      ((Mutation.output s.volume.root (s.resolve target) content).verdict s.now s.volume.root)
      s.volume) := by
  have hchange (m : Mutation) : change m s =
      ((Volume.settle (m.verdict s.now s.volume.root) s.volume).1,
        { s with volume := (Volume.settle (m.verdict s.now s.volume.root) s.volume).2 }) := rfl
  have houtput : (if s.volume.has (s.resolve target) then
        Mutation.write (s.resolve target) content
      else .createFile (Path.split (s.resolve target)).1 (Path.split (s.resolve target)).2
        content) = Mutation.output s.volume.root (s.resolve target) content := rfl
  rw [redirect, Action.get_bind_apply]
  dsimp only
  rw [houtput, Action.bind_apply, hchange]
  generalize Volume.settle _ s.volume = settled
  obtain ⟨_ | _ | _, v⟩ := settled <;> rfl

/-! ## The reasons in words -/

theorem redirectFailure_of_guarded {v : Volume} {path : Text}
    (h : v.lastError = some .protectedPath) :
    redirectFailure v target path = target ++ " is write-protected." := by
  rw [redirectFailure, if_pos h]

/-- Where no snapshot is written, the words are those of the case. -/
theorem reason?_of_refused {v : Volume} {path : Text} (h : v.lastError ≠ some .protectedPath)
    (hw : (v.root.redirection path).writes = false) :
    (v.root.redirection path).reason? target = some (redirectFailure v target path) := by
  rw [redirectFailure, if_neg h, Volume.directory?, Volume.directory?, Node.isSome_directoryAt,
    ← Option.not_isSome, Node.isSome_directoryAt, Node.holdsDirectory]
  rw [Node.redirection] at hw ⊢
  split at hw
  · cases hw
  · rename_i hg
    rw [if_neg hg]
    cases hl : v.root.lookup path with
    | some n =>
      rw [hl] at hw
      cases n with
      | file => cases hw
      | directory => rfl
    | none =>
      rw [hl] at hw
      dsimp only at hw ⊢
      split at hw
      · cases hw
      · rename_i hparent
        rw [if_neg hparent]
        simp [hparent, Redirection.reason?]

/-! ## The law -/

/-- The store took the snapshot of `v`, or why not. -/
theorem outcome_cases_of_write (v : Volume) :
    ((v.store.write v.key v.toJson).1 = .ok () ∧ v.outcome = .ok ()) ∨
      ∃ f, (v.store.write v.key v.toJson).1 = .error f ∧ v.outcome = .error (.store f) := by
  rw [Volume.outcome]
  cases (v.store.write v.key v.toJson).1 with
  | ok => exact .inl ⟨rfl, rfl⟩
  | error f => exact .inr ⟨f, rfl, rfl⟩

theorem isRedirected_of_guarded (target content : Text) (s : Session ω) :
    IsRedirected target content s (redirectedBy target s (Volume.settle .guarded s.volume))
      .writeProtected := by
  rw [Volume.settle_guarded]
  rcases outcome_cases_of_write s.volume.marked with ⟨hw, ho⟩ | ⟨f, hw, ho⟩ <;> rw [ho]
  · let v := s.volume.marked.saved.refusing .protectedPath
    have hfailure : redirectFailure v target (s.resolve target) =
        target ++ " is write-protected." := redirectFailure_of_guarded rfl
    have hr : redirectedBy target s (.ok false, v) = (.ok (Markup.error (target ++
        " is write-protected.")), { s with volume := v, log := s.log ++ [⟨.response,
          Markup.error (target ++ " is write-protected.")⟩] }) := by
      rw [redirectedBy, hfailure]
    show IsRedirected target content s (redirectedBy target s (.ok false, v)) .writeProtected
    rw [hr]
    refine ⟨rfl, (Bool.or_true _).symm, rfl, rfl, fun _ => ⟨rfl, rfl⟩, fun f _ hf => ?_⟩
    exact absurd (hw.symm.trans hf) nofun
  · refine ⟨rfl, (Bool.or_true _).symm, rfl, rfl, fun h => ?_, fun g _ hg => ?_⟩
    · exact absurd (hw.symm.trans (h rfl)) nofun
    · cases hw.symm.trans hg
      exact ⟨rfl, rfl⟩

theorem isRedirected_of_refused {content : Text} {reason : Refusal} (hw : d.writes = false)
    (hreason : d.reason? target =
      some (redirectFailure (s.volume.refusing reason) target (s.resolve target))) :
    IsRedirected target content s
      (redirectedBy target s (Volume.settle (.refused reason) s.volume)) d := by
  have hedits : d.Edits s.now (s.resolve target) content s.volume.root s.volume.root := by
    cases d <;> first | rfl | cases hw
  have hmark : decide (d = .writeProtected) = false := by cases d <;> first | rfl | cases hw
  have hstore : d.writes ≠ true := by simp [hw]
  rw [Volume.settle_refused]
  refine ⟨hedits, ?_, rfl, (if_neg hstore).symm, fun _ => ?_, fun f h => absurd h hstore⟩
  · rw [hmark, Bool.or_false]
    rfl
  · rw [Redirection.reply, Redirection.logged, hreason]
    exact ⟨rfl, rfl⟩

theorem isRedirected_of_accepted {new : Node} (hd : d.storesOutput = true)
    (hedits : d.Edits s.now (s.resolve target) content s.volume.root new) :
    IsRedirected target content s
      (redirectedBy target s (Volume.settle (.accepted new) s.volume)) d := by
  have hwrites : d.writes = true := by cases d <;> first | rfl | cases hd
  have hreason : d.reason? target = none := by cases d <;> first | rfl | cases hd
  have hmark : (decide (d = .writeProtected)) = false := by cases d <;> first | rfl | cases hd
  rw [Volume.settle_accepted]
  rcases outcome_cases_of_write (s.volume.accepting new) with ⟨hw, ho⟩ | ⟨f, hw, ho⟩ <;> rw [ho]
  · refine ⟨hedits, ?_, rfl, (if_pos hwrites).symm, fun _ => ?_, fun f _ hf => ?_⟩
    · rw [hmark, Bool.or_false]
      rfl
    · rw [Redirection.reply, Redirection.logged, hreason]
      exact ⟨rfl, (List.append_nil _).symm⟩
    · exact absurd (hw.symm.trans hf) nofun
  · refine ⟨hedits, ?_, rfl, (if_pos hwrites).symm, fun h => ?_, fun g _ hg => ?_⟩
    · rw [hmark, Bool.or_false]
      rfl
    · exact absurd (hw.symm.trans (h hwrites)) nofun
    · cases hw.symm.trans hg
      exact ⟨rfl, rfl⟩

/-- Output goes where it is meant to go, or is kept from it for a reason that is put into words, or
is cut short for the store, or for want of a size; in the last case nothing is done at all. -/
theorem isRedirected_or_unsized (hcwd : Path.IsNormal s.cwd) (content : Text)
    (hd : s.volume.root.redirection (s.resolve target) = d) :
    IsRedirected target content s (redirect target content s) d ∨
      d.storesOutput = true ∧ isUnsized content = true ∧
        ∃ t, redirect target content s = (.error (.unencodable t), s) := by
  have hruled := Mutation.isRuled_output s.now s.volume.root
    (Path.isNormal_resolve target hcwd) content
  rw [redirect_eq]
  change Redirection.IsRuled s.now (s.resolve target) content s.volume.root
    (s.volume.root.redirection (s.resolve target)) ((Mutation.output s.volume.root
      (s.resolve target) content).verdict s.now s.volume.root) at hruled
  rw [hd] at hruled
  generalize (Mutation.output s.volume.root (s.resolve target) content).verdict s.now
    s.volume.root = verdict at hruled ⊢
  cases hruled with
  | guarded => exact .inl (isRedirected_of_guarded target content s)
  | refused hw hne =>
    subst hd
    have hreason : (s.volume.refusing _).lastError ≠ some .protectedPath :=
      fun e => hne (Option.some.inj e)
    exact .inl (isRedirected_of_refused hw (reason?_of_refused hreason hw))
  | accepted hs hedits => exact .inl (isRedirected_of_accepted hs hedits)
  | @unsized _ t hs hu => exact .inr ⟨hs, hu, t, rfl⟩

/-! ## Stages -/

/-- The session with a line entered. -/
def entered (line : Text) (s : Session ω) : Session ω :=
  { s with history := s.history.add line, log := s.log ++ [⟨.command, line⟩] }

/-- A line whose output goes to a file: it is a pipeline, and no stage clears the screen. -/
structure RedirectsTo (line target : Text) : Prop where
  isBlank : line.isBlank = false
  isRequest : isRequest line = false
  clears : ∀ command ∈ (Pipeline.ofLine line).commands, clears command = false
  redirect : (Pipeline.ofLine line).redirect = some target

variable {host : Host ω}

theorem fault_of_runStage {command : Command} {input : Text} {fault : Fault}
    (h : (runStage host command input s).1 = .error fault) : fault = .noText := by
  rw [runStage, Action.bind_apply, Action.attempt_apply] at h
  dsimp only at h
  cases hresult : (dispatch host command.name command.args input s).1 with
  | ok =>
    rw [hresult] at h
    cases h
  | error f =>
    rw [hresult] at h
    cases f <;> cases h
    rfl

/-- Stages come to an end without a fault, with some output unless one of them clears the screen. -/
theorem stages_end
    (hopen : ∀ message : Json, message.IsOpening → Carries Proceeds (host.bus.publish message))
    (commands : List Command) :
    ∀ {s : Session ω} (output : Text), s.IsInOrder →
      ∃ r s', runStages host commands output s = (.ok r, s') ∧ s'.IsInOrder ∧
        r.isNone = commands.any clears := by
  induction commands with
  | nil => exact fun output hs => ⟨some output, _, rfl, hs, rfl⟩
  | cons command rest ih =>
    intro s output hs
    have hstage := carries_runStage admitsLines_proceeds.toAdmits hopen command
      (Markup.strip output) s
    rw [runStages, List.any_cons]
    by_cases hclears : clears command = true
    · rw [if_pos hclears, hclears]
      exact ⟨none, s, rfl, hs, rfl⟩
    · rw [if_neg hclears, Action.bind_apply, Bool.eq_false_iff.mpr hclears]
      rcases hresult : runStage host command (Markup.strip output) s with ⟨fault | o, s'⟩
      · rw [hresult] at hstage
        -- the one fault that ends a stage is the lack of output, which a session in order has not
        have hfault := fault_of_runStage (congrArg Prod.fst hresult)
        exact absurd (congrArg some hfault) (hstage.hasText hs)
      · rw [hresult] at hstage
        exact ih o (hstage.inOrder hs)

/-- Stages that do not clear the screen come to an end with some output. -/
theorem exists_output
    (hopen : ∀ message : Json, message.IsOpening → Carries Proceeds (host.bus.publish message))
    {commands : List Command} (hclear : ∀ command ∈ commands, clears command = false)
    (hs : s.IsInOrder) :
    ∃ o s', runStages host commands [] s = (.ok (some o), s') ∧ s'.IsInOrder := by
  obtain ⟨r, s', hstages, hs', hnone⟩ := stages_end hopen commands [] hs
  have hnever : commands.any clears = false :=
    List.any_eq_false.mpr fun command hc => by simp [hclear command hc]
  rw [hnever] at hnone
  cases r with
  | none => cases hnone
  | some o => exact ⟨o, s', hstages, hs'⟩

theorem run_eq_runPipeline {line : Text} (hblank : line.isBlank = false)
    (hrequest : isRequest line = false) (s : Session ω) :
    run host line s = runPipeline host (Pipeline.ofLine line) (entered line s) := by
  rw [run, if_neg (by simp [hblank]), if_neg (by simp [hrequest])]
  rfl

theorem run_eq_askAssistant {line : Text} (hblank : line.isBlank = false)
    (hrequest : isRequest line = true) (s : Session ω) :
    run host line s = askAssistant host (requestPrompt line) (entered line s) := by
  rw [run, if_neg (by simp [hblank]), if_pos hrequest]
  rfl

/-- Once the stages have come to an end, only the redirection is left. -/
theorem run_eq_redirect {line target o : Text} {s s' : Session ω} (h : RedirectsTo line target)
    (hstages : runStages host (Pipeline.ofLine line).commands [] (entered line s) =
      (.ok (some o), s')) : run host line s = redirect target (Markup.strip o) s' := by
  rw [run_eq_runPipeline h.isBlank h.isRequest, runPipeline, Action.bind_apply, hstages, h.redirect]

/-- After stages a store that takes everything does so still. -/
theorem isWritable_of_stages
    (hopen : ∀ message : Json, message.IsOpening → Carries Proceeds (host.bus.publish message))
    {commands : List Command} {line : Text} {result : Except Fault (Option Text)}
    {s' : Session ω} (hstore : s.volume.store.TakesAll)
    (hstages : runStages host commands [] (entered line s) = (result, s')) :
    s'.volume.IsWritable := by
  have hrun := carries_runStages admitsLines_proceeds.toAdmits hopen commands [] (entered line s)
  rw [hstages] at hrun
  have hentered : (entered line s).volume.store.TakesAll := hstore
  exact fun snapshot => ((Volume.Run.takesAll hrun.leads hentered).write _ _).1

/-! ## The result -/

/-- The answer for a failure of unknown cause has one capital C more than the target, and no answer
to a redirection has that. -/
theorem reply_ne_fallback (target : Text) (d : Redirection) :
    d.reply target ≠ Markup.error ("Could not write to " ++ target ++ ".") := by
  let count (t : Text) : Nat := t.count (CodePoint.ofChar 'C')
  have hfallback (t : Text)
      (h : Markup.error t = Markup.error ("Could not write to " ++ target ++ ".")) :
      count t = count target + 1 := by
    have ht := List.append_cancel_left (List.append_cancel_right h)
    have hstart : count "Could not write to " = 1 := by decide
    have hend : count "." = 0 := by decide
    rw [ht]
    simp only [count, List.count_append] at hstart hend ⊢
    omega
  intro h
  cases d with
  | writeProtected =>
    have hcount := hfallback _ h
    have hend : count " is write-protected." = 0 := by decide
    simp only [count, List.count_append] at hcount hend
    omega
  | isDirectory =>
    have hcount := hfallback _ h
    have hend : count " is a directory." = 0 := by decide
    simp only [count, List.count_append] at hcount hend
    omega
  | noDirectory =>
    have hcount := hfallback _ h
    have hnone : count "Directory does not exist." = 0 := by decide
    omega
  | overwritten | created => cases h

/-- A line whose output goes to a file, in any session in use. Let its stages come to an end in the
session `s'` with the output `o`. Then the path that the target means there and what stands there
decide alone what is answered and logged and what becomes of the tree, as long as the store takes
what is written and the plain output has a size. The answer is never the one for a failure of
unknown cause. -/
theorem redirected_of_run {s : Session ω} (h : Underway s) {w : Surroundings ω} (hw : w.AreOrderly)
    (turns : Nat) {line target : Text} (hline : RedirectsTo line target) :
    ∃ o s', runStages (w.host turns) (Pipeline.ofLine line).commands [] (entered line s) =
        (.ok (some o), s') ∧
      (s'.volume.IsWritable → isUnsized (Markup.strip o) = false →
        let r := run (w.host turns) line s
        let path := s'.resolve target
        let d := s'.volume.root.redirection path
        r.1 = .ok (d.reply target) ∧ r.2.log = s'.log ++ d.logged target ∧
          d.Edits s'.now path (Markup.strip o) s'.volume.root r.2.volume.root ∧
          r.2.volume.corrupted = (s'.volume.corrupted || d = .writeProtected) ∧
          r.1 ≠ .ok (Markup.error ("Could not write to " ++ target ++ "."))) := by
  have hentered : (entered line s).IsInOrder := ⟨h.isInOrder.user, h.isInOrder.cwd⟩
  have hopen (message : Json) (hm : message.IsOpening) :=
    (hw.keeps turns).publish message (hm.isAllowed true)
  obtain ⟨o, s', hstages, horder⟩ := exists_output hopen hline.clears hentered
  refine ⟨o, s', hstages, fun hwritable hsized => ?_⟩
  intro r path d
  have hr : r = redirect target (Markup.strip o) s' := run_eq_redirect hline hstages
  rcases isRedirected_or_unsized horder.cwd (Markup.strip o) (d := d) rfl with hd | ⟨-, hu, -⟩
  · rw [← hr] at hd
    obtain ⟨hreply, hlog⟩ := hd.answer fun _ => hwritable r.2.volume.snapshot
    refine ⟨hreply, hlog, hd.tree, hd.mark, ?_⟩
    rw [hreply]
    exact fun e => reply_ne_fallback target d (Except.ok.inj e)
  · rw [hsized] at hu
    cases hu

/-- After going to a directory, a file there is overwritten under a roundabout path, and output to
the protected directory is refused. -/
theorem redirected_of_run_in_documents :
    let w := Scripted.surroundings false false {} []
    let first := start ⟨Node.defaultTree 0, false, none, Store.empty, Volume.defaultKey⟩ {}
      History.usualLimit 1 { draws := { seed := 1 } }
    let s := (run (w.host 0) "cd /Documents" first).2
    let written := run (w.host 0) "echo hi > .././Documents//welcome.txt" s
    let refused := run (w.host 0) "echo lo > ../System/x" s
    Underway s ∧ written.1 = .ok [] ∧
      (written.2.volume.root.outline? "/Documents/welcome.txt").bind Node.Outline.content? =
        some (Text.ofString "hi") ∧
      refused.1 = .ok (Markup.error "../System/x is write-protected.") ∧
        refused.2.volume.corrupted = true := by
  intro w first s written refused
  have hw : w.AreOrderly := areOrderly_scripted false false {}
  have hload : Volume.load 0 Store.empty Volume.defaultKey = .ok first.volume := rfl
  have huse : Use first s := .line 0 "cd /Documents" first hw
  have h : Underway s := ⟨_, _, _, _, _, .load hload, rfl, .single huse⟩
  have hstore : first.volume.store.TakesAll := ⟨⟨[], rfl⟩, fun _ => rfl⟩
  have hleads : Leads true first s := huse.proceeds.elim fun _ hp => hp.leads
  have htakes : s.volume.store.TakesAll := Volume.Run.takesAll hleads hstore
  have hopen (message : Json) (hm : message.IsOpening) :=
    (hw.keeps 0).publish message (hm.isAllowed true)
  refine ⟨h, ?_⟩
  have hline : RedirectsTo "echo hi > .././Documents//welcome.txt" ".././Documents//welcome.txt" :=
    ⟨by decide +kernel, by decide +kernel, by decide +kernel, by decide +kernel⟩
  have hline' : RedirectsTo "echo lo > ../System/x" "../System/x" :=
    ⟨by decide +kernel, by decide +kernel, by decide +kernel, by decide +kernel⟩
  obtain ⟨o, s₁, hstages, hwritten⟩ := redirected_of_run h hw 0 hline
  obtain ⟨o', s₂, hstages', hrefused⟩ := redirected_of_run h hw 0 hline'
  -- what the stages come to for each line, by running them
  let stages (line : Text) := runStages (w.host 0) (Pipeline.ofLine line).commands []
    (entered line s)
  have hmet : (stages "echo hi > .././Documents//welcome.txt").1.toOption =
        some (some (Text.ofString "hi")) ∧
      (stages "echo hi > .././Documents//welcome.txt").2.resolve ".././Documents//welcome.txt" =
        "/Documents/welcome.txt" ∧
      (stages "echo hi > .././Documents//welcome.txt").2.volume.root.redirection
        "/Documents/welcome.txt" = .overwritten := by decide +kernel
  have hmet' : (stages "echo lo > ../System/x").1.toOption = some (some (Text.ofString "lo")) ∧
      (stages "echo lo > ../System/x").2.volume.root.redirection
        ((stages "echo lo > ../System/x").2.resolve "../System/x") = .writeProtected := by
    decide +kernel
  rw [show stages "echo hi > .././Documents//welcome.txt" = _ from hstages] at hmet
  rw [show stages "echo lo > ../System/x" = _ from hstages'] at hmet'
  obtain ⟨hout, hpath, hcase⟩ := hmet
  obtain ⟨hout', hcase'⟩ := hmet'
  cases hout
  cases hout'
  have hfile := hwritten (isWritable_of_stages hopen htakes hstages) (by decide +kernel)
  have hkept := hrefused (isWritable_of_stages hopen htakes hstages') (by decide +kernel)
  have hrun : run (w.host 0) "echo hi > .././Documents//welcome.txt" s = written := rfl
  have hrun' : run (w.host 0) "echo lo > ../System/x" s = refused := rfl
  clear_value written refused
  dsimp only at hpath hcase hcase' hfile hkept
  rw [hrun, hpath, hcase] at hfile
  rw [hrun', hcase'] at hkept
  obtain ⟨hreply, -, ⟨size, -, htree⟩, -⟩ := hfile
  obtain ⟨hreply', -, -, hmark, -⟩ := hkept
  have hstrip : Markup.strip "hi" = Text.ofString "hi" := by decide +kernel
  exact ⟨hreply, htree.content?_written.trans (congrArg some hstrip), hreply',
    hmark.trans (Bool.or_true _)⟩

end Session

end VirtualShell
