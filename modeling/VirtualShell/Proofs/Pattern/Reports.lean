import VirtualShell.Pattern.Reader
import VirtualShell.Proofs.Text.Encodable
/-
  What the readers of patterns report.

  What can be wrong with a pattern is put into words with pieces of the pattern in them. `Reads`
  follows a reader from step to step: the tokens are cut out of the pattern, so where that holds no
  surrogate, neither does what is read of it, and no cause that is reported quotes one.
-/

namespace VirtualShell

/-! ## Causes -/

/-- What the cause quotes holds no surrogate. -/
def PatternCause.IsEncodable : PatternCause → Prop
  | .incompleteEscape text | .badEscape text | .octalTooLarge text | .unknownCharacterName text
  | .missingName text | .badGroupName text | .unknownGroupName text | .redefinedGroup text _ _
  | .unknownExtension text | .templateRepetition text => text.IsEncodable
  | .unterminatedName terminator => terminator.isSurrogate = false
  | .badRange low high => low.IsEncodable ∧ high.IsEncodable
  | _ => True

theorem PatternCause.IsEncodable.message {cause : PatternCause} (h : cause.IsEncodable) :
    cause.message.IsEncodable := by
  have hquoted {t : Text} (ht : t.IsEncodable) : t.quoted.IsEncodable := ht.quoted
  cases cause <;> simp_all [PatternCause.IsEncodable, PatternCause.message]

namespace Pattern

/-! ## Steps -/

/-- No token that is left holds a surrogate. -/
def Reading.IsEncodable (r : Reading) : Prop := ∀ t ∈ r.rest, t.chars.IsEncodable

/-- The cause of a fault, if it has one, quotes no surrogate. -/
def IsReportable : PatternFault → Prop
  | .malformed cause _ => cause.IsEncodable
  | _ => True

variable {α β : Type} {P : α → Prop} {Q : β → Prop}

/-- Among tokens without surrogates a step reads what `P` says, or reports a fault in words without
surrogates. -/
def Reads (P : α → Prop) (step : Read α) : Prop :=
  ∀ r : Reading, r.IsEncodable →
    match step r with
    | .ok (a, r') => P a ∧ r'.IsEncodable
    | .error fault => IsReportable fault

/-- A step of which only the words for its faults matter. -/
abbrev Reports (step : Read α) : Prop := Reads (fun _ => True) step

namespace Reads

theorem pure {a : α} (h : P a) : Reads P (pure a) := fun _ hr => ⟨h, hr⟩

theorem bind {step : Read α} {next : α → Read β} (h : Reads P step)
    (hn : ∀ a, P a → Reads Q (next a)) : Reads Q (step >>= next) := by
  intro r hr
  have hstep := h r hr
  show match (step r).bind fun p => next p.1 p.2 with
    | .ok (b, r') => Q b ∧ r'.IsEncodable
    | .error fault => IsReportable fault
  cases hs : step r with
  | error fault =>
    rw [hs] at hstep
    exact hstep
  | ok p =>
    rw [hs] at hstep
    exact hn p.1 hstep.1 p.2 hstep.2

theorem ite {condition : Prop} [Decidable condition] {step other : Read α} (h : Reads P step)
    (ho : Reads P other) : Reads P (if condition then step else other) := by
  split
  · exact h
  · exact ho

/-- One of two steps, and what comes after either. -/
theorem ite_bind {condition : Prop} [Decidable condition] {step other : Read α}
    {next : α → Read β} (h : Reads P step) (ho : Reads P other)
    (hn : ∀ a, P a → Reads Q (next a)) :
    Reads Q (if condition then step >>= next else other >>= next) :=
  ite (h.bind hn) (ho.bind hn)

/-- A check that may end in a fault, and what comes after it. -/
theorem check_bind {condition : Prop} [Decidable condition] {check : Read PUnit} {next : Read β}
    (h : Reports check) (hn : Reads Q next) :
    Reads Q (if condition then check >>= fun _ => next else next) :=
  ite (h.bind fun _ _ => hn) hn

theorem reports {step : Read α} (h : Reads P step) : Reports step := by
  intro r hr
  have hstep := h r hr
  cases hs : step r with
  | error fault =>
    rw [hs] at hstep
    exact hstep
  | ok p =>
    rw [hs] at hstep
    exact ⟨trivial, hstep.2⟩

theorem get : Reads Reading.IsEncodable get := fun _ hr => ⟨hr, hr⟩

theorem throw {fault : PatternFault} (h : IsReportable fault) : Reads P (throw fault) :=
  fun _ _ => h

theorem failAt {cause : PatternCause} {position : Nat} (h : cause.IsEncodable) :
    Reads P (failAt cause position) := fun _ _ => h

theorem fail {cause : PatternCause} {back : Nat} (h : cause.IsEncodable) :
    Reads P (fail cause back) := fun _ _ => h

end Reads

theorem reports_modify {f : Reading → Reading} (h : ∀ r, r.IsEncodable → (f r).IsEncodable) :
    Reports (modify f) := fun r hr => ⟨trivial, h r hr⟩

theorem reports_map {step : Read α} (h : Reports step) (f : α → β) : Reports (f <$> step) :=
  .bind h fun _ _ => .pure trivial

/-! ## Tokens -/

theorem isEncodable_of_mem_tokensFrom {t : Text} (start : Nat) (h : t.IsEncodable) :
    ∀ token ∈ tokensFrom start t, token.chars.IsEncodable := by
  fun_induction tokensFrom start t with
  | case1 => exact fun _ hm => nomatch hm
  | case2 => simp [CodePoint.isSurrogate_ofChar]
  | case3 start d more ih =>
    obtain ⟨hc, hd, hmore⟩ : _ ∧ _ ∧ _ := by simpa using h
    exact List.forall_mem_cons.mpr ⟨by simp [hc, hd], ih hmore⟩
  | case4 start c rest hc ih =>
    obtain ⟨hc, hrest⟩ := Text.isEncodable_cons.mp h
    exact List.forall_mem_cons.mpr ⟨by simp [hc], ih hrest⟩

theorem reports_position : Reports position := .bind .get fun _ _ => .pure trivial

theorem reports_checkNext : Reports checkNext := by
  refine .bind .get fun r _ => ?_
  split
  · exact .ite (.failAt trivial) (.pure trivial)
  · exact .pure trivial

theorem reads_take : Reads (fun t => ∀ token ∈ t, token.chars.IsEncodable) take := by
  refine .bind .get fun r hr => ?_
  split
  · exact .pure nofun
  · rename_i t rest hrest
    rw [Reading.IsEncodable, hrest, List.forall_mem_cons] at hr
    refine .bind (reports_modify fun _ _ => hr.2) fun _ _ => ?_
    refine .bind reports_checkNext fun _ _ => .pure ?_
    rintro token ⟨⟩
    exact hr.1

theorem reads_peek : Reads (fun t => ∀ chars ∈ t, Text.IsEncodable chars) peek := by
  refine .bind .get fun r hr => .pure fun chars hc => ?_
  obtain ⟨t, ht, rfl⟩ := Option.map_eq_some_iff.mp hc
  exact hr t (List.mem_of_mem_head? ht)

theorem reports_accept (c : CodePoint) : Reports (accept c) :=
  .bind reads_peek fun _ _ => .ite (.bind reads_take fun _ _ => .pure trivial) (.pure trivial)

theorem reads_takeWhileUpTo (kind : CodePoint → Bool) (n : Nat) :
    Reads Text.IsEncodable (takeWhileUpTo kind n) := by
  induction n with
  | zero => exact .pure Text.isEncodable_nil
  | succ n ih =>
    refine .bind reads_peek fun next hnext => ?_
    split
    · rename_i c
      have hc := (Text.isEncodable_cons.mp (hnext _ rfl)).1
      refine .ite (.bind reads_take fun _ _ => .bind ih fun run hrun => .pure ?_)
        (.pure Text.isEncodable_nil)
      exact Text.isEncodable_cons.mpr ⟨hc, hrun⟩
    · exact .pure Text.isEncodable_nil

theorem reads_takeRun (kind : CodePoint → Bool) : Reads Text.IsEncodable (takeRun kind) :=
  .bind .get fun r _ => reads_takeWhileUpTo kind r.rest.length

theorem reads_takeUntilAfter {terminator : CodePoint} {what : Text}
    (ht : terminator.isSurrogate = false) (hw : what.IsEncodable) (n : Nat) :
    ∀ {taken : Text}, taken.IsEncodable →
      Reads Text.IsEncodable (takeUntilAfter terminator what n taken) := by
  induction n with
  | zero => exact fun htaken => .pure htaken
  | succ n ih =>
    intro taken htaken
    refine .bind reads_take fun next hnext => ?_
    split
    · exact .ite (.fail hw) (.fail ht)
    · rename_i t
      refine .ite (.ite (.fail hw) (.pure htaken)) ?_
      exact ih (Text.isEncodable_append.mpr ⟨htaken, hnext t rfl⟩)

theorem reads_takeName {terminator : CodePoint} {what : Text}
    (ht : terminator.isSurrogate = false) (hw : what.IsEncodable) :
    Reads Text.IsEncodable (takeName terminator what) :=
  .bind .get fun _ _ => reads_takeUntilAfter ht hw _ Text.isEncodable_nil

end Pattern

end VirtualShell
