import VirtualShell.Proofs.Pattern.Reports
/-
  The parts of patterns, without surrogates.

  Each of the readers that do not call each other in turn: escapes, sets, options, repetitions and
  the kinds of groups. Those whose text is used later read no surrogate, and all report none.
-/

namespace VirtualShell.Pattern

variable {α : Type}

/-! ## Escapes -/

section Escapes

variable {escape : Text}

theorem reports_readHexEscape (h : escape.IsEncodable) (count : Nat) :
    Reports (readHexEscape escape count) := by
  refine .bind (reads_takeWhileUpTo _ _) fun digits hdigits => ?_
  have hwhole : (escape ++ digits).IsEncodable := Text.isEncodable_append.mpr ⟨h, hdigits⟩
  refine .ite (.fail hwhole) ?_
  dsimp only
  split
  · exact .pure trivial
  · exact .fail hwhole

theorem reports_readNamedEscape (h : escape.IsEncodable) : Reports (readNamedEscape escape) := by
  refine .bind (reports_accept _) fun _ _ => .ite ?_ (.fail trivial)
  refine .bind (reads_takeName (CodePoint.isSurrogate_ofChar _) (Text.isEncodable_ofString _))
    fun name hname => .ite (.fail h) ?_
  split
  · exact .pure trivial
  · exact .fail hname

theorem reports_readPlainEscape (h : escape.IsEncodable) (c : CodePoint) :
    Reports (readPlainEscape escape c) := .ite (.fail h) (.pure trivial)

theorem reports_readSetEscape (h : escape.IsEncodable) (c : CodePoint) :
    Reports (readSetEscape escape c) := by
  have single {step : Read CodePoint} (hs : Reports step) :
      Reports (do return SetItem.single (← step)) := .bind hs fun _ _ => .pure trivial
  unfold readSetEscape
  split
  · exact .pure trivial
  · exact .pure trivial
  · refine .ite (single (reports_readHexEscape h 2)) ?_
    refine .ite (single (reports_readHexEscape h 4)) ?_
    refine .ite (single (reports_readHexEscape h 8)) ?_
    refine .ite (single (reports_readNamedEscape h)) ?_
    refine .ite (.bind (reads_takeWhileUpTo _ _) fun digits hdigits => ?_) ?_
    · exact .ite (.fail (Text.isEncodable_append.mpr ⟨h, hdigits⟩)) (.pure trivial)
    · exact .ite (.fail h) (single (reports_readPlainEscape h c))

theorem reports_closedGroup? (index : Nat) : Reports (closedGroup? index) := by
  unfold closedGroup?
  split
  · exact .pure trivial
  · exact .bind .get fun _ _ => .pure trivial

theorem reports_checkLookBehind (index : Nat) : Reports (checkLookBehind index) := by
  refine .bind .get fun r _ => ?_
  split
  · exact .pure trivial
  · refine .bind (reports_closedGroup? index) fun _ _ => ?_
    exact .ite (.fail trivial) (.ite (.fail trivial) (.pure trivial))

theorem reports_readDigitEscape (o : PatternOptions) (h : escape.IsEncodable) (c : CodePoint) :
    Reports (readDigitEscape o escape c) := by
  refine .bind (reads_takeWhileUpTo _ _) fun second hsecond => ?_
  refine .ite_bind (reads_takeWhileUpTo _ _) (.pure Text.isEncodable_nil) fun third hthird => ?_
  refine .ite (.ite (.fail ?_) (.pure trivial)) (.bind .get fun r _ => .ite ?_ (.fail trivial))
  · simp [PatternCause.IsEncodable, h, hsecond, hthird]
  · refine .bind (reports_closedGroup? _) fun width _ => ?_
    split
    · exact .fail trivial
    · exact .bind (reports_checkLookBehind _) fun _ _ => .pure trivial

theorem reports_readEscape (o : PatternOptions) (h : escape.IsEncodable) (c : CodePoint) :
    Reports (readEscape o escape c) := by
  have letter {step : Read CodePoint} (hs : Reports step) :
      Reports (do return Part.letter o (← step)) := .bind hs fun _ _ => .pure trivial
  unfold readEscape
  split
  · exact .pure trivial
  · exact .pure trivial
  · exact .pure trivial
  · refine .ite (letter (reports_readHexEscape h 2)) ?_
    refine .ite (letter (reports_readHexEscape h 4)) ?_
    refine .ite (letter (reports_readHexEscape h 8)) ?_
    refine .ite (letter (reports_readNamedEscape h)) ?_
    refine .ite (.bind (reads_takeWhileUpTo _ _) fun _ _ => .pure trivial) ?_
    exact .ite (reports_readDigitEscape o h c) (letter (reports_readPlainEscape h c))

end Escapes

/-! ## Sets -/

theorem reports_readSetMember {t : Token} (h : t.chars.IsEncodable) :
    Reports (readSetMember t) := by
  unfold readSetMember
  split
  · exact reports_readSetEscape h _
  · exact .pure trivial
  · exact .pure trivial

theorem reports_readSetMembers (start n : Nat) :
    ∀ items : List SetItem, Reports (readSetMembers start n items) := by
  induction n with
  | zero => exact fun items => .pure trivial
  | succ n ih =>
    intro items
    refine .bind reads_take fun next hnext => ?_
    split
    · exact .failAt trivial
    · rename_i t
      have ht := hnext t rfl
      refine .ite (.pure trivial) (.bind (reports_readSetMember ht) fun low _ => ?_)
      refine .bind (reports_accept _) fun _ _ => .ite ?_ (ih _)
      refine .bind reads_take fun further hfurther => ?_
      split
      · exact .failAt trivial
      · rename_i u
        have hu := hfurther u rfl
        have hrange : (PatternCause.badRange t.chars u.chars).IsEncodable := ⟨ht, hu⟩
        refine .ite (.pure trivial) (.bind (reports_readSetMember hu) fun high _ => ?_)
        split
        · exact .ite (.fail hrange) (ih _)
        · exact .fail hrange

theorem reports_readSet (o : PatternOptions) (start : Nat) : Reports (readSet o start) := by
  refine .bind (reports_accept _) fun _ _ => .bind .get fun _ _ => ?_
  refine .bind (reports_readSetMembers _ _ _) fun _ _ => ?_
  refine .ite ?_ (.pure trivial)
  split
  · exact .pure trivial
  · exact .pure trivial

/-! ## Options -/

theorem reports_failFlag {t : Text} {unfinished : PatternCause}
    (h : unfinished.IsEncodable) : Reports (failFlag t unfinished : Read α) := by
  unfold failFlag
  split
  · refine .fail ?_
    split
    · exact trivial
    · exact h
  · exact .fail h

theorem reports_readFlagsOn (n : Nat) :
    ∀ (t : Text) (f : FlagSet), Reports (readFlagsOn n t f) := by
  induction n with
  | zero => exact fun t f => .pure trivial
  | succ n ih =>
    intro t f
    rw [readFlagsOn]
    split
    · exact .fail trivial
    · refine .ite (.fail trivial) (.bind reads_take fun next _ => ?_)
      split
      · exact .fail trivial
      · exact .ite (.pure trivial) (.ite (ih _ _) (reports_failFlag trivial))

theorem reports_readFlagsOff (n : Nat) :
    ∀ (t : Text) (f : FlagSet), Reports (readFlagsOff n t f) := by
  induction n with
  | zero => exact fun t f => .pure trivial
  | succ n ih =>
    intro t f
    rw [readFlagsOff]
    refine .ite (.fail trivial) (.bind reads_take fun next _ => ?_)
    split
    · exact .fail trivial
    · exact .ite (.pure trivial) (.ite (ih _ _) (reports_failFlag trivial))

theorem reports_readFlags (t : Text) : Reports (readFlags t) := by
  refine .bind .get fun r _ => ?_
  refine .ite_bind (.pure trivial) (reports_readFlagsOn _ _ _) fun (on, ended) _ => ?_
  refine .ite (.pure trivial) (.ite (.fail trivial) (.ite ?_ (.pure trivial)))
  refine .bind reads_take fun next _ => ?_
  split
  · exact .fail trivial
  · refine .ite (reports_failFlag trivial) (.bind (reports_readFlagsOff _ _ _) fun off _ => ?_)
    exact .ite (.fail trivial) (.ite (.fail trivial) (.pure trivial))

/-! ## Repetitions -/

theorem reports_repetitionNumber (digits : Text) : Reports (repetitionNumber digits) :=
  .ite (.throw trivial) (.ite (.throw trivial) (.pure trivial))

theorem reports_readBounds : Reports readBounds := by
  -- without a closing brace the reader goes back to where it was before
  refine .bind .get fun before hbefore => .bind reports_position fun start _ => ?_
  refine .bind (reads_takeRun _).reports fun low _ => .bind (reports_accept _) fun _ _ => ?_
  refine .ite_bind (reads_takeRun _).reports (.pure trivial) fun high _ => ?_
  refine .bind (reports_accept _) fun _ _ => .ite ?_ ?_
  · refine .bind (reports_repetitionNumber low) fun least _ => ?_
    refine .ite_bind (.pure trivial) (reports_map (reports_repetitionNumber high) some)
      fun most _ => ?_
    exact .ite (.failAt trivial) (.pure trivial)
  · exact .bind (reports_modify fun _ _ => hbefore) fun _ _ => .pure trivial

theorem reports_readRepetition (c : CodePoint) : Reports (readRepetition c) := by
  refine .ite (.pure trivial) (.ite (.pure trivial) (.ite (.pure trivial) ?_))
  exact .bind reads_peek fun _ _ => .ite (.pure trivial) reports_readBounds

theorem reports_readGreed : Reports readGreed := by
  refine .bind (reports_accept _) fun _ _ => .ite (.pure trivial) ?_
  exact .bind (reports_accept _) fun _ _ => .ite (.pure trivial) (.pure trivial)

theorem reports_repeatLast (start : Nat) (bounds : Nat × Option Nat) (items : List Item) :
    Reports (repeatLast start bounds items) := by
  unfold repeatLast
  dsimp only
  split
  · exact .failAt trivial
  · exact .failAt trivial
  · exact .failAt trivial
  · exact .bind reports_readGreed fun _ _ => .pure trivial
  · exact .bind reports_readGreed fun _ _ => .pure trivial

/-! ## Groups -/

theorem reports_turnOn (on : FlagSet) : Reports (turnOn on) := reports_modify fun _ hr => hr

theorem reports_openGroup {name : Option Text} (h : ∀ t ∈ name, t.IsEncodable) :
    Reports (openGroup name) := by
  refine .bind .get fun r _ => .bind (reports_modify fun _ hr => hr) fun _ _ => ?_
  split
  · exact .pure trivial
  · rename_i t
    split
    · exact .fail (h t rfl)
    · exact .bind (reports_modify fun _ hr => hr) fun _ _ => .pure trivial

theorem reports_closeGroup (index : Nat) (body : Pattern) : Reports (closeGroup index body) :=
  reports_modify fun _ hr => hr

theorem reports_skipComment (start n : Nat) : Reports (skipComment start n) := by
  induction n with
  | zero => exact .pure trivial
  | succ n ih =>
    refine .bind reads_peek fun _ _ => ?_
    split
    · exact .failAt trivial
    · refine .bind reads_take fun _ _ => ?_
      split
      · exact .ite (.pure trivial) ih
      · exact .pure trivial

theorem reports_skipLine (n : Nat) : Reports (skipLine n) := by
  induction n with
  | zero => exact .pure trivial
  | succ n ih =>
    refine .bind reads_take fun _ _ => ?_
    split
    · exact .pure trivial
    · exact .ite (.pure trivial) ih

theorem reads_groupName {terminator : Char} :
    Reads Text.IsEncodable (takeName terminator "group name") :=
  reads_takeName (CodePoint.isSurrogate_ofChar _) (Text.isEncodable_ofString _)

theorem reports_readCondition : Reports readCondition := by
  have checked {step : Read Nat} (hs : Reports step) : Reports (do
      let index ← step
      checkLookBehind index
      return index) :=
    .bind hs fun index _ => .bind (reports_checkLookBehind index) fun _ _ => .pure trivial
  refine .bind reads_groupName fun name hname => ?_
  dsimp only
  refine .ite (.bind .get fun r _ => ?_) ?_
  · split
    · exact checked (.pure trivial)
    · exact checked (.fail hname)
  · split
    · refine .ite (checked (.fail trivial)) (.ite (checked (.fail trivial)) ?_)
      refine .bind reports_position fun _ _ => ?_
      exact .bind (reports_modify fun r hr => by split <;> exact hr) fun _ _ =>
        checked (.pure trivial)
    · exact checked (.fail hname)

theorem reports_readNameReference (o : PatternOptions) : Reports (readNameReference o) := by
  refine .bind reads_groupName fun name hname => .ite (.fail hname) (.bind .get fun r _ => ?_)
  split
  · exact .fail hname
  · refine .bind (reports_closedGroup? _) fun width _ => ?_
    split
    · exact .fail trivial
    · exact .bind (reports_checkLookBehind _) fun _ _ => .pure trivial

theorem reports_closeParenthesis (start : Nat) : Reports (closeParenthesis start) :=
  .bind (reports_accept _) fun _ _ => .ite (.pure trivial) (.failAt trivial)

/-- A group whose name, if it has one, holds no surrogate. -/
def GroupKind.IsEncodable : GroupKind → Prop
  | .capturing name => ∀ t ∈ name, t.IsEncodable
  | _ => True

theorem reads_readGroupKind (o : PatternOptions) (start : Nat) :
    Reads GroupKind.IsEncodable (readGroupKind o start) := by
  have hextension {kind t : Text} (hkind : kind.IsEncodable) (ht : t.IsEncodable) :
      (PatternCause.unknownExtension (kind ++ t)).IsEncodable :=
    Text.isEncodable_append.mpr ⟨hkind, ht⟩
  refine .bind (reports_accept _) fun _ _ => .ite (.pure nofun) ?_
  refine .bind reads_take fun next hnext => ?_
  split
  · exact .fail trivial
  · rename_i t
    dsimp only
    refine .ite (.bind (reports_accept _) fun _ _ => .ite ?_ ?_) ?_
    · refine .bind reads_groupName fun name hname => .ite (.pure fun t ht => ?_) (.fail hname)
      rwa [Option.mem_some.mp ht] at hname
    · refine .bind (reports_accept _) fun _ _ => .ite ?_ ?_
      · exact .bind (reports_readNameReference o) fun _ _ => .pure trivial
      · refine .bind reads_take fun further hfurther => ?_
        split
        · exact .fail trivial
        · rename_i u
          exact .fail (hextension (Text.isEncodable_ofString _) (hfurther u rfl))
    · refine .ite (.pure trivial) (.ite ?_ (.ite (.pure trivial) (.ite (.pure trivial) ?_)))
      · exact .bind .get fun _ _ => .bind (reports_skipComment _ _) fun _ _ => .pure trivial
      · refine .ite (.bind reads_take fun further hfurther => ?_) ?_
        · split
          · exact .fail trivial
          · rename_i u
            refine .ite (.pure trivial) (.ite (.pure trivial) (.fail ?_))
            exact hextension (Text.isEncodable_ofString _) (hfurther u rfl)
        · refine .ite (.pure trivial) (.ite (.pure trivial) (.ite ?_ (.fail (hnext t rfl))))
          refine .bind (reports_readFlags _) fun _ _ => ?_
          split
          · exact .pure trivial
          · exact .pure trivial

end VirtualShell.Pattern
