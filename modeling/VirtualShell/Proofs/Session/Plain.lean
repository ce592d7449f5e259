import Mathlib.Data.List.Chain
import VirtualShell.Proofs.Markup
import VirtualShell.Proofs.Session.Execution
/-
  Output that is handed on as data.

  What a stage reads and what a file gets is output with the control sequences stripped. It is plain
  as long as the output held no interrupted sequence, and only as long as that: this holds for each
  stage of a line and for the file at its end.
-/

namespace VirtualShell

/-- Output that is put somewhere changes the content of no file but to the output. -/
theorem Redirection.Edits.content? {now : Float} {path content other : Text} {before after : Node}
    {d : Redirection} (h : d.Edits now path content before after) (ho : Path.IsNormal other) :
    (after.outline? other).bind Node.Outline.content? =
        (before.outline? other).bind Node.Outline.content? ∨
      (after.outline? other).bind Node.Outline.content? = some content := by
  cases d with
  | writeProtected | isDirectory | noDirectory =>
    obtain rfl : after = before := h
    exact .inl rfl
  | overwritten =>
    obtain ⟨size, -, hwritten⟩ := h
    by_cases hother : other = path
    · rw [hother]
      exact .inr hwritten.content?_written
    · exact .inl (by rw [hwritten.beside other ho hother])
  | created =>
    obtain ⟨size, -, hadded⟩ := h
    generalize Path.split path = place at hadded
    cases hwithin : Path.isWithin other (Path.join place.1 place.2) with
    | true =>
      by_cases hother : other = Path.join place.1 place.2
      · rw [hother, hadded.made]
        exact .inr rfl
      · obtain ⟨hbefore, hafter⟩ := hadded.bare other ho hwithin hother
        exact .inl (by rw [hbefore, hafter])
    | false =>
      left
      rw [hadded.beside other ho hwithin]
      cases before.outline? other with
      | none => rfl
      | some o =>
        dsimp only [Option.map_some, Option.bind_some]
        split <;> rfl

namespace Session

open Markup (IsPlain IsUninterrupted)
open VirtualShell.Action (Carries)

variable {ω : Type} {host : Host ω}

/-- Each stage but the first reads the plain text of what the one before it put out. -/
theorem Executes.inputs {commands : List Command} {output last : Text} {s s' : Session ω}
    {trace : List (Stage ω)} (h : Executes host commands output s trace last s') :
    (∀ e ∈ trace.head?, e.input = Markup.strip output) ∧
      trace.IsChain fun e e' => e'.input = Markup.strip e.output := by
  induction h with
  | done => exact ⟨by simp, .nil⟩
  | stage hstage hrest ih =>
    refine ⟨fun e he => ?_, List.isChain_cons.mpr ih⟩
    rw [List.head?_cons, Option.mem_some_iff] at he
    rw [← he]

/-- Stages that were executed, none of them clearing the screen, have come to an end. -/
theorem Executes.runStages_eq {commands : List Command} {output last : Text} {s s' : Session ω}
    {trace : List (Stage ω)} (h : Executes host commands output s trace last s')
    (hc : ∀ command ∈ commands, clears command = false) :
    runStages host commands output s = (.ok (some last), s') := by
  induction h with
  | done => rfl
  | stage hstage _ ih =>
    rw [List.forall_mem_cons] at hc
    rw [runStages, hc.1, if_neg (by simp), Action.bind_apply, hstage]
    exact ih hc.2

/-- The files that there are after a line with a target: of each the content is what the stages have
left there, or the plain text of the output. -/
theorem content?_of_run {w : Surroundings ω} (turns : Nat) {line target output content path : Text}
    {s s' : Session ω} (hline : RedirectsTo line target) (hcwd : Path.IsNormal s'.cwd)
    (hstages : runStages (w.host turns) (Pipeline.ofLine line).commands [] (entered line s) =
      (.ok (some output), s'))
    (hcontent : (run (w.host turns) line s).2.volume.content? path = some content) :
    s'.volume.content? path = some content ∨ content = Markup.strip output := by
  rw [run_eq_redirect hline hstages] at hcontent
  rcases isRedirected_or_unsized hcwd (Markup.strip output) rfl with hd | ⟨-, -, t, hsame⟩
  · rw [Volume.content?, Volume.node?, Node.content?_lookup] at hcontent ⊢
    rcases hd.tree.content? (Path.isNormal_normalize path) with h | h
    · exact .inl (h.symm.trans hcontent)
    · exact .inr (Option.some.inj (hcontent.symm.trans h))
  · rw [hsame] at hcontent
    exact .inl hcontent

/-! ## The result -/

/-- What stripping leaves is plain, and stripping it again changes nothing, just if no control
sequence in the text was interrupted by others. So each stage of a line in any session in use has
plain text to read just if the one before it put out none that was, the first having nothing to
read, and the content that a line with a target gives to a file is plain just if the output of its
last stage holds none. -/
theorem plain_of_run {s : Session ω} (h : Underway s) {w : Surroundings ω} (hw : w.AreOrderly)
    (turns : Nat) (line : Text) :
    (∀ t, (IsPlain (Markup.strip t) ↔ IsUninterrupted t) ∧
      (Markup.strip (Markup.strip t) = Markup.strip t ↔ IsUninterrupted t)) ∧
    ∃ trace output s', Executes (w.host turns) (beforeClear (Pipeline.ofLine line).commands) []
        (entered line s) trace output s' ∧
      (∀ e ∈ trace.head?, e.input = []) ∧
      (trace.IsChain fun e e' => IsPlain e'.input ↔ IsUninterrupted e.output) ∧
      ∀ target, RedirectsTo line target → ∀ path content : Text,
        (run (w.host turns) line s).2.volume.content? path = some content →
          s'.volume.content? path = some content ∨ (IsPlain content ↔ IsUninterrupted output) := by
  refine ⟨fun t => ⟨Markup.isPlain_strip_iff, Markup.strip_strip_eq_iff⟩, ?_⟩
  have hentered : (entered line s).IsInOrder := ⟨h.isInOrder.user, h.isInOrder.cwd⟩
  have hopen (message : Json) (hm : message.IsOpening) :=
    (hw.keeps turns).publish message (hm.isAllowed true)
  obtain ⟨r, s', hstages, horder, -⟩ := stages_end hopen (Pipeline.ofLine line).commands [] hentered
  obtain ⟨trace, output, hexecutes, hr⟩ := exists_executes_of_runStages hstages
  obtain ⟨hhead, hchain⟩ := hexecutes.inputs
  refine ⟨trace, output, s', hexecutes, fun e he => ?_, hchain.imp fun e e' hinput => ?_,
    fun target hline path content hcontent => ?_⟩
  · rw [hhead e he, Markup.strip_nil]
  · rw [hinput]
    exact Markup.isPlain_strip_iff
  · have hnever : (Pipeline.ofLine line).commands.any clears = false :=
      List.any_eq_false.mpr fun command hc => by simp [hline.clears command hc]
    rw [hnever, if_neg (by simp)] at hr
    rw [hr] at hstages
    refine (content?_of_run turns hline horder.cwd hstages hcontent).imp_right fun hstrip => ?_
    rw [hstrip]
    exact Markup.isPlain_strip_iff

/-- The hit of a search is put out in colour; the search after it reads it without, and so does a
file. -/
theorem plain_of_run_of_search :
    let w := Surroundings.deserted
    let first : Session Unit := start
      ⟨Node.defaultTree 0, false, none, Store.empty, Volume.defaultKey⟩ {} History.usualLimit 1 ()
    let line := Text.ofString "grep Editor /Documents/welcome.txt | grep Text > /found.txt"
    let after := (run (w.host 0) line first).2
    Underway first ∧ w.AreOrderly ∧
      ∃ trace output s', Executes (w.host 0) (beforeClear (Pipeline.ofLine line).commands) []
          (entered line first) trace output s' ∧ ¬IsPlain output ∧
        ∃ content, after.volume.content? "/found.txt" = some content ∧ IsPlain content := by
  intro w first line after
  have hw : w.AreOrderly := Surroundings.areOrderly_deserted
  have hload : Volume.load 0 Store.empty Volume.defaultKey = .ok first.volume := rfl
  have h : Underway first := ⟨_, _, _, _, _, .load hload, rfl, .refl⟩
  have hline : RedirectsTo line "/found.txt" :=
    ⟨by decide +kernel, by decide +kernel, by decide +kernel, by decide +kernel⟩
  obtain ⟨-, trace, output, s', hexecutes, -, -, hfile⟩ := plain_of_run h hw 0 line
  have hstages := hexecutes.runStages_eq (by decide +kernel)
  -- what the stages come to, by running them
  let stages := runStages (w.host 0) (beforeClear (Pipeline.ofLine line).commands) []
    (entered line first)
  have hmet : (∃ o ∈ stages.1.toOption.join, ¬IsPlain o ∧ IsUninterrupted o) ∧
      stages.2.volume.content? "/found.txt" = none := by decide +kernel
  rw [show stages = _ from hstages] at hmet
  obtain ⟨⟨o, ho, hcoloured, hwhole⟩, hnew⟩ := hmet
  cases ho
  refine ⟨h, hw, trace, output, s', hexecutes, hcoloured, ?_⟩
  have hfound : (after.volume.content? "/found.txt").isSome = true := by decide +kernel
  obtain ⟨content, hcontent⟩ := Option.isSome_iff_exists.mp hfound
  refine ⟨content, hcontent, ?_⟩
  rcases hfile _ hline _ _ hcontent with hold | hplain
  · rw [hnew] at hold
    cases hold
  · exact hplain.mpr hwhole

/-- A reset that stands behind the escape character of another one: when it goes, what is left is
the other one, and a file gets that. -/
theorem not_isPlain_of_interrupted_reset :
    let interrupted : Text := Markup.escape :: (Markup.reset ++ "[0m")
    let first : Session Unit := start
      ⟨Node.defaultTree 0, false, none, Store.empty, Volume.defaultKey⟩ {} History.usualLimit 1 ()
    let line := "echo " ++ interrupted ++ " > /out.txt"
    let after := (run (Surroundings.deserted.host 0) line first).2
    ¬IsPlain (Markup.strip interrupted) ∧
      Markup.strip (Markup.strip interrupted) ≠ Markup.strip interrupted ∧
      after.volume.content? "/out.txt" = some Markup.reset ∧ ¬IsPlain Markup.reset := by
  decide +kernel

end Session

end VirtualShell
