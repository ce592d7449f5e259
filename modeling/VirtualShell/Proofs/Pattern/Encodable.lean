import VirtualShell.Pattern.Search
import VirtualShell.Proofs.Pattern.Parts
/-
  Patterns without surrogates.

  Where a pattern holds no surrogate, neither do the words for what is wrong with it. The pieces
  that a search cuts a line into are pieces of the line.
-/

namespace VirtualShell

namespace Pattern

/-! ## Whole patterns -/

/-- What the readers that call each other do with the number of calls that may nest. -/
structure NestedReport (n : Nat) : Prop where
  alternatives (o : PatternOptions) (nested : Bool) : Reports (readAlternatives n o nested)
  further (o : PatternOptions) (nested : Bool) : Reports (readFurther n o nested)
  sequence (o : PatternOptions) (atStart : Bool) (items : List Item) :
    Reports (readSequence n o atStart items)
  group (o : PatternOptions) (start : Nat) {kind : GroupKind} (h : kind.IsEncodable) :
    Reports (readGroup n o start kind)
  otherBranch (o : PatternOptions) : Reports (readOtherBranch n o)

namespace NestedReport

variable {n : Nat}

theorem readAlternatives_succ (h : NestedReport n) (o : PatternOptions) (nested : Bool) :
    Reports (readAlternatives (n + 1) o nested) := by
  rw [readAlternatives]
  refine .bind (h.sequence _ _ _) fun first _ => .bind (reports_accept _) fun _ _ => ?_
  exact .ite (.bind (h.further _ _) fun _ _ => .pure trivial) (.pure trivial)

theorem readFurther_succ (h : NestedReport n) (o : PatternOptions) (nested : Bool) :
    Reports (readFurther (n + 1) o nested) := by
  rw [readFurther]
  refine .bind .get fun r _ => .bind (h.sequence _ _ _) fun next _ => ?_
  refine .bind (reports_accept _) fun _ _ => ?_
  exact .ite (.bind (h.further _ _) fun _ _ => .pure trivial) (.pure trivial)

theorem readOtherBranch_succ (h : NestedReport n) (o : PatternOptions) :
    Reports (readOtherBranch (n + 1) o) := by
  rw [readOtherBranch]
  refine .bind (reports_map (h.sequence _ _ _) _) fun no _ => ?_
  exact .bind reads_peek fun _ _ => .ite (.fail trivial) (.pure trivial)

theorem readGroup_succ (h : NestedReport n) (o : PatternOptions) (start : Nat) {kind : GroupKind}
    (hk : kind.IsEncodable) : Reports (readGroup (n + 1) o start kind) := by
  have hbody (o : PatternOptions) : Reports (Part.sequence <$> readAlternatives n o true) :=
    reports_map (h.alternatives o true) _
  have hclose {a : Item} : Reports (do
      closeParenthesis start
      return a) := .bind (reports_closeParenthesis start) fun _ _ => .pure trivial
  cases kind with
  | capturing name =>
    rw [readGroup]
    refine .bind (reports_openGroup hk) fun index _ => .bind (hbody o) fun body _ => ?_
    refine .bind (reports_closeParenthesis start) fun _ _ => ?_
    exact .bind (reports_closeGroup _ _) fun _ _ => .pure trivial
  | withOptions | atomic | lookAhead =>
    rw [readGroup]
    exact .bind (hbody _) fun _ _ => hclose
  | lookBehind =>
    rw [readGroup]
    refine .bind .get fun r _ => .bind (reports_modify fun _ hr => hr) fun _ _ => ?_
    exact .bind (hbody _) fun _ _ => .bind (reports_modify fun _ hr => hr) fun _ _ => hclose
  | condition =>
    rw [readGroup]
    refine .bind reports_readCondition fun index _ => ?_
    refine .bind (reports_map (h.sequence _ _ _) _) fun yes _ => ?_
    refine .bind (reports_accept _) fun _ _ => ?_
    exact .ite_bind (h.otherBranch o) (.pure trivial) fun no _ => hclose
  | plain | reference | comment | wholeOptions =>
    rw [readGroup]
    · exact .bind (h.alternatives _ _) fun _ _ => hclose
    all_goals nofun

theorem readSequence_succ (h : NestedReport n) (o : PatternOptions) (atStart : Bool)
    (items : List Item) : Reports (readSequence (n + 1) o atStart items) := by
  rw [readSequence]
  refine .bind reports_position fun start _ => .bind reads_peek fun next hnext => ?_
  split
  · exact .pure trivial
  · rename_i chars
    refine .ite (.pure trivial) (.bind reads_take fun _ _ => ?_)
    dsimp only
    split
    · refine .ite (h.sequence _ _ _) (.ite ?_ ?_)
      · exact .bind .get fun _ _ => .bind (reports_skipLine _) fun _ _ => h.sequence _ _ _
      · refine .ite (.bind (reports_readSet o start) fun _ _ => h.sequence _ _ _) (.ite ?_ ?_)
        · refine .bind (reports_readRepetition _) fun _ _ => ?_
          split
          · exact h.sequence _ _ _
          · exact .bind (reports_repeatLast _ _ _) fun _ _ => h.sequence _ _ _
        · refine .ite (h.sequence _ _ _) (.ite (h.sequence _ _ _) (.ite (h.sequence _ _ _) ?_))
          refine .ite (.bind (reads_readGroupKind o start) fun kind hkind => ?_) (h.sequence _ _ _)
          split
          · exact h.sequence _ _ _
          · exact h.sequence _ _ _
          · refine .ite (.failAt trivial) (.bind (reports_turnOn _) fun _ _ => ?_)
            exact .bind .get fun _ _ => h.sequence _ _ _
          · exact .bind (h.group o start hkind) fun _ _ => h.sequence _ _ _
    · exact .bind (reports_readEscape o (hnext _ rfl) _) fun _ _ => h.sequence _ _ _
    · exact .pure trivial

end NestedReport

theorem nestedReport (n : Nat) : NestedReport n := by
  -- each reader calls the others with one level less
  induction n with
  | zero =>
    exact ⟨fun _ _ => .pure trivial, fun _ _ => .pure trivial, fun _ _ _ => .pure trivial,
      fun _ _ _ _ => .pure trivial, fun _ => .pure trivial⟩
  | succ n ih =>
    exact ⟨ih.readAlternatives_succ, ih.readFurther_succ, ih.readSequence_succ,
      ih.readGroup_succ, ih.readOtherBranch_succ⟩

theorem isEncodable_of_firstRefusal? {template : Bool} {p : Pattern} {cause : PatternCause}
    (h : p.firstRefusal? template = some cause) : cause.IsEncodable := by
  induction p with
  | seq a b iha ihb | alt a b iha ihb | ifGroup _ a b iha ihb =>
    rcases Option.or_eq_some_iff.mp h with h | ⟨-, h⟩
    · exact iha h
    · exact ihb h
  | group _ body ih | atomic body ih | lookAhead _ body ih => exact ih h
  | repeats greed _ _ body ih =>
    rw [firstRefusal?] at h
    split at h
    · cases h
      cases greed <;> exact Text.isEncodable_ofString _
    · exact ih h
  | lookBehind _ body ih =>
    rw [firstRefusal?] at h
    split at h
    · exact ih h
    · cases h
      trivial
  | _ => cases h

theorem reports_readWhole : Reports readWhole := by
  refine .bind reports_checkNext fun _ _ => .bind .get fun _ _ => ?_
  refine .bind (reports_map ((nestedReport _).alternatives _ _) _) fun p _ => ?_
  refine .bind .get fun r _ => ?_
  refine .check_bind (.throw trivial) (.check_bind (.fail trivial) ?_)
  split
  · exact .failAt trivial
  · split
    · rename_i cause hcause
      exact .throw (isEncodable_of_firstRefusal? hcause)
    · exact .pure trivial

/-- The words for what is wrong with a pattern without surrogates hold none. -/
theorem isEncodable_report {t : Text} (h : t.IsEncodable) {cause : PatternCause}
    {position : Option Nat} (he : ofText t = .error (.malformed cause position)) :
    (cause.report position t).IsEncodable := by
  have hread := reports_readWhole { rest := tokensFrom 0 t, stop := t.length }
    (isEncodable_of_mem_tokensFrom 0 h)
  have hcause : cause.IsEncodable := by
    rw [ofText, StateT.run'] at he
    cases hr : readWhole { rest := tokensFrom 0 t, stop := t.length } with
    | ok p =>
      rw [hr] at he
      cases he
    | error fault =>
      rw [hr] at he hread
      cases he
      exact hread
  unfold PatternCause.report
  split
  · exact hcause.message
  · simp only [Text.isEncodable_append, Text.isEncodable_ofString, Text.isEncodable_ofNat,
      hcause.message]
    split <;> simp

/-! ## Searching -/

theorem isEncodable_of_mem_piecesFrom {pattern : Pattern} {text : Line} (fuel : Nat) :
    ∀ {moving : Bool} {i : Nat} {after : Text}, after.IsEncodable →
      ∀ piece ∈ pattern.piecesFrom text fuel moving i after, piece.text.IsEncodable := by
  induction fuel with
  | zero =>
    intro moving i after h piece hp
    rw [piecesFrom, List.mem_singleton] at hp
    exact hp ▸ h
  | succ fuel ih =>
    intro moving i after h piece hp
    rw [piecesFrom] at hp
    split at hp
    · rw [List.mem_singleton] at hp
      exact hp ▸ h
    · rename_i j n _
      rcases List.mem_cons.mp hp with rfl | hp
      · exact h.take _
      · rcases List.mem_cons.mp hp with rfl | hp
        · exact (h.drop _).take _
        · exact ih ((h.drop _).drop _) piece hp

theorem isEncodable_of_mem_pieces {pattern : Pattern} {t : Text} (h : t.IsEncodable) {piece : Piece}
    (hp : piece ∈ pattern.pieces t) : piece.text.IsEncodable :=
  isEncodable_of_mem_piecesFrom _ h piece hp

end Pattern

theorem isEncodable_markHits {mark : Text → Text} (hm : ∀ t, t.IsEncodable → (mark t).IsEncodable)
    {pieces : List Piece} (h : ∀ piece ∈ pieces, piece.text.IsEncodable) :
    (markHits mark pieces).IsEncodable := by
  intro c hc
  obtain ⟨piece, hp, hc⟩ := List.mem_flatMap.mp hc
  cases piece with
  | plain t => exact h _ hp c hc
  | hit t => exact hm t (h _ hp) c hc

end VirtualShell
