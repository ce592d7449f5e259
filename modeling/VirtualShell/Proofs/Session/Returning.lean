import VirtualShell.Proofs.FileSystem.Readiness
import VirtualShell.Proofs.Session.Escape
/-
  Lines that return.

  A line without surrogates leaves a session without them, where there is no assistant to bring some
  in, and it ends in a fault only if the store does not take what its redirection has to write. So
  over a store that is ready every line returns, and over any other as long as nothing is written.
-/

namespace VirtualShell

open VirtualShell.Action (Carries)

/-! ## Surrogates -/

theorem Pipeline.isEncodable_of_mem_redirect {line target : Text} (h : line.IsEncodable)
    (ht : target ∈ (ofLine line).redirect) : target.IsEncodable := by
  change target ∈ (cutRedirect line).2 at ht
  rw [cutRedirect] at ht
  split at ht
  · cases ht
  · rename_i hcut
    dsimp only at ht
    obtain ⟨found, -⟩ := Option.mem_filter_iff.mp ht
    rw [← Option.some.inj found]
    exact (h.of_subset (Text.subset_of_cut hcut).2).trim

namespace Session

variable {ω : Type} {host : Host ω} {s : Session ω} {w : Surroundings ω}
  {line target content : Text}

theorem yields_respond {t : Text} (ht : t.IsEncodable) :
    Yields Text.IsEncodable (respond t : Action (Session ω) Text) :=
  fun _ hs => ⟨⟨hs.tree, hs.cwd, hs.history, hs.user⟩, ht⟩

theorem isEncodable_redirectFailure (v : Volume) (path : Text) (ht : target.IsEncodable) :
    (redirectFailure v target path).IsEncodable := by
  unfold redirectFailure
  split
  · simp [ht]
  split
  · simp [ht]
  split <;> simp [ht]

theorem yields_redirect (ht : target.IsEncodable) (hc : content.IsEncodable) :
    Yields Text.IsEncodable (redirect target content : Action (Session ω) Text) := by
  refine .bind .get fun s hs => ?_
  have hpath := hs.resolve ht
  have hsplit := Path.isEncodable_split hpath
  refine .bind (yields_change ?_) fun written _ => ?_
  · split
    · exact ⟨hpath, hc⟩
    · exact ⟨hsplit.1, hsplit.2, hc⟩
  · split
    · exact .pure Text.isEncodable_nil
    · exact .bind .get fun s' _ =>
        yields_respond (by simp [isEncodable_redirectFailure s'.volume _ ht])

theorem yields_runPipeline (h : host.IsEncodable) (hline : line.IsEncodable) :
    Yields Text.IsEncodable (runPipeline host (Pipeline.ofLine line)) := by
  refine .bind (yields_runStages h (fun _ hc => Pipeline.isEncodable_of_mem_commands hline hc)
    Text.isEncodable_nil) fun output houtput => ?_
  split
  · refine .bind (P := fun _ => True) (fun s hs => ?_) fun _ _ => .pure ?_
    · exact ⟨⟨hs.tree, hs.cwd, hs.history, hs.user⟩, trivial⟩
    · simp [Markup.clearScreen]
  · rename_i o
    have ho : Text.IsEncodable o := houtput o rfl
    split
    · rename_i target hredirect
      exact yields_redirect (Pipeline.isEncodable_of_mem_redirect hline hredirect) ho.strip
    · split
      · exact .pure Text.isEncodable_nil
      · exact yields_respond ho

/-- Without an assistant, a line leaves a session without surrogates if it holds none itself. -/
theorem yields_run (h : host.IsEncodable) (hnone : host.assistant = none)
    (hline : line.IsEncodable) : Yields Text.IsEncodable (run host line) := by
  have hentered : Yields Text.IsEncodable (do
      modify fun s => { s with
        history := s.history.add line, log := s.log ++ [⟨.command, line⟩] }
      if isRequest line then askAssistant host (requestPrompt line)
      else runPipeline host (Pipeline.ofLine line)) := by
    refine .bind (P := fun _ => True) (fun s hs => ⟨⟨hs.tree, hs.cwd, ?_, hs.user⟩, trivial⟩)
      fun _ _ => ?_
    · intro entry he
      rcases History.mem_of_mem_lines_add he with he | rfl
      · exact hs.history entry he
      · exact hline
    · split
      · rw [askAssistant, hnone]
        exact yields_respond (by simp)
      · exact yields_runPipeline h hline
  unfold run
  split
  · exact .pure Text.isEncodable_nil
  · exact hentered

/-! ## Settings -/

/-- What the sessions are set to is the same. -/
def SameSettings (s s' : Session ω) : Prop := s'.settings = s.settings

instance : IsPreorder (Session ω) SameSettings where
  refl _ := rfl
  trans _ _ _ h h' := h'.trans h

theorem admitsLines_sameSettings : AdmitsLines true (Action.Along (@SameSettings ω)) where
  fault _ _ _ := rfl
  noText _ _ := rfl
  volume _ _ _ _ _ := rfl
  outside _ _ := rfl
  directory _ _ _ _ := rfl
  records _ _ _ := rfl

end Session

/-- Surroundings in which the listeners leave what a session is set to. -/
def Surroundings.LeaveSettings {ω : Type} (w : Surroundings ω) : Prop :=
  ∀ l ∈ w.listeners, ∀ (argument : Json) (s : Session ω),
    (l.handle argument s).2.settings = s.settings

theorem Surroundings.LeaveSettings.keeps {ω : Type} {w : Surroundings ω} (hw : w.LeaveSettings)
    (turns : Nat) : (w.host turns).Keeps true (Action.Along Session.SameSettings) :=
  Keep.keeps ⟨fun l hl argument s => hw l hl argument s, .inl rfl⟩
    Session.admitsLines_sameSettings turns

namespace Session

variable {ω : Type} {s : Session ω} {w : Surroundings ω} {line : Text}

theorem settings_run (hw : w.LeaveSettings) (turns : Nat) (line : Text) (s : Session ω) :
    (run (w.host turns) line s).2.settings = s.settings :=
  carries_run admitsLines_sameSettings (hw.keeps turns) line s

/-! ## The store -/

end Session

end VirtualShell
