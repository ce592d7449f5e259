import VirtualShell.Proofs.FileSystem.Decision
import VirtualShell.Proofs.FileSystem.WriteThrough
/-
  When the mark for damage is raised.

  Two kinds of calls raise it: one that is asked to touch the protected directory, and damage. One
  kind takes it away, the reset. `Mutation.IsTrespass` is the first of these, said of the paths
  that a change is asked for and of nothing that is found in the tree; `verdict_eq_guarded_iff` is
  that the guard lets everything else pass, whatever else may stand against it.

  `corrupted_perform` is what one call makes of the mark. Over a run it follows that the mark is
  up just if the latest call that decides about it was one that raises it (`corrupted_run`).
-/

namespace VirtualShell

/-- Whether a normal path is that of the protected directory or goes on from there. -/
def IsOffLimits (path : Text) : Prop :=
  ∃ names, (∀ name ∈ names, Name.IsProper name) ∧ path = Path.extend protectedDirectory names

theorem isProtected_iff_isOffLimits {path : Text} (h : Path.IsNormal path) :
    isProtected path = true ↔ IsOffLimits path :=
  h.isWithin_iff_extend (Path.isNormal_normalize protectedDirectory)

namespace Mutation

/-- Whether a change is asked to touch the protected directory: to write, delete, rename or move
what is there, to put something there by a move or a copy, or to make a new node there. -/
def IsTrespass : Mutation → Prop
  | write path _ | delete path | rename path _ => IsOffLimits (Path.normalize path)
  | move source newParent =>
    IsOffLimits (Path.normalize source) ∨ IsOffLimits (Path.normalize newParent)
  | copy _ newParent => IsOffLimits (Path.normalize newParent)
  | createFile parent name _ | createDirectory parent name =>
    Name.IsProper name ∧ IsOffLimits (Path.join (Path.normalize parent) name)

variable {now : Float} {root : Node} {m : Mutation}

/-- Where nothing before it stands against the change, the guard alone decides about its reason. -/
theorem decision_eq_of_guard {before others : List (Bool × Refusal)} {guard : Bool}
    (h : m.objections root = before ++ (guard, .protectedPath) :: others)
    (hbefore : ∀ objection ∈ before, objection.1 = false)
    (hothers : ∀ objection ∈ others, objection.2 ≠ .protectedPath) :
    m.decision root = .refused .protectedPath ↔ guard = true := by
  have hnone : before.find? (·.1) = none := List.find?_eq_none.mpr fun objection hm => by
    rw [hbefore objection hm]
    exact Bool.false_ne_true
  rw [decision, h, List.find?_append, hnone, Option.none_or]
  cases guard with
  | true => exact iff_of_true rfl rfl
  | false =>
    refine iff_of_false (fun hdecision => ?_) Bool.false_ne_true
    rw [List.find?_cons_of_neg Bool.false_ne_true] at hdecision
    split at hdecision
    · rename_i objection hfound
      rw [Decision.refused.injEq] at hdecision
      exact hothers objection (List.mem_of_find?_eq_some hfound) hdecision
    · split at hdecision <;> cases hdecision

theorem decision_eq_of_guard_first {others : List (Bool × Refusal)} {guard : Bool}
    (h : m.objections root = (guard, .protectedPath) :: others)
    (hothers : ∀ objection ∈ others, objection.2 ≠ .protectedPath) :
    m.decision root = .refused .protectedPath ↔ guard = true :=
  @decision_eq_of_guard root m [] others guard h (by simp) hothers

/-- Of a new node the name is asked for before the guard. -/
theorem decision_eq_of_creation {parent name : Text}
    (h : m.objections root = creationObjections root parent name) :
    m.decision root = .refused .protectedPath ↔
      Name.isValid name = true ∧ isProtected (Path.join (Path.normalize parent) name) = true := by
  by_cases hn : Name.isValid name = true
  · have hname : ∀ objection ∈ [(!Name.isValid name, Refusal.invalidName)],
        objection.1 = false := by simp [hn]
    rw [@decision_eq_of_guard root m [(!Name.isValid name, .invalidName)] _ _ h hname (by simp)]
    simp [hn]
  · rw [decision, h, creationObjections]
    simp [hn]

/-- The guard decides before anything else does, but for the name of a new node. -/
theorem decision_eq_protectedPath_iff (root : Node) (m : Mutation) :
    m.decision root = .refused .protectedPath ↔ m.IsTrespass := by
  have normal : ∀ path, isProtected (Path.normalize path) = true ↔
      IsOffLimits (Path.normalize path) := fun path =>
    isProtected_iff_isOffLimits (Path.isNormal_normalize path)
  have creation : ∀ {m : Mutation} {parent name : Text},
      m.objections root = creationObjections root parent name →
      (m.decision root = .refused .protectedPath ↔
        Name.IsProper name ∧ IsOffLimits (Path.join (Path.normalize parent) name)) := by
    intro m parent name h
    rw [decision_eq_of_creation h, Name.isValid_iff]
    exact and_congr_right fun hn =>
      isProtected_iff_isOffLimits (Path.isNormal_join (Path.isNormal_normalize parent) hn)
  cases m with
  | write path content => exact (decision_eq_of_guard_first rfl (by simp)).trans (normal path)
  | createFile parent name content => exact creation rfl
  | createDirectory parent name => exact creation rfl
  | delete path => exact (decision_eq_of_guard_first rfl (by simp)).trans (normal path)
  | rename path newName => exact (decision_eq_of_guard_first rfl (by simp)).trans (normal path)
  | move source newParent =>
    refine (decision_eq_of_guard_first rfl (by simp)).trans ?_
    rw [Bool.or_eq_true]
    exact or_congr (normal source) (normal newParent)
  | copy source newParent =>
    exact (decision_eq_of_guard_first rfl (by simp)).trans (normal newParent)

/-- The guard stops just the trespasses. -/
theorem verdict_eq_guarded_iff (now : Float) (root : Node) (m : Mutation) :
    m.verdict now root = .guarded ↔ m.IsTrespass := by
  rw [← decision_eq_protectedPath_iff root m, ← decision_verdict now root m]
  cases hm : m.verdict now root with
  | guarded => exact iff_of_true rfl rfl
  | accepted | unencodable => exact iff_of_false (by simp) (by simp [Verdict.decision])
  | refused reason =>
    refine iff_of_false (by simp) fun h => ne_protectedPath_of_refused hm ?_
    exact Decision.refused.inj h

end Mutation

namespace Volume

variable {σ : Type} {v : Volume}

/-! ## One call -/

/-- Whether a call raises the mark: it does if it is a trespass, or damage that comes to an end. -/
def Call.Raises (source : Source σ) (now : Float) (v : Volume) (draws : σ) : Call → Prop
  | .look _ | .reset => False
  | .change m => m.IsTrespass
  | .corrupt attempts => (Corruption.damage source attempts now v.root draws).isSome

theorem corrupted_settle (verdict : Verdict) (v : Volume) :
    (settle verdict v).2.corrupted = true ↔ v.corrupted = true ∨ verdict = .guarded := by
  have hsnapshot := congrArg Snapshot.corrupted (snapshot_settle verdict v)
  have hcorrupted : (settle verdict v).2.corrupted = (verdict.snapshot v.snapshot).corrupted :=
    hsnapshot
  rw [hcorrupted]
  cases verdict <;> simp [Verdict.snapshot, snapshot]

/-- A reset takes the mark away. Any other call leaves it or raises it. -/
theorem corrupted_perform (source : Source σ) (now : Float) (call : Call) (v : Volume)
    (draws : σ) : (perform source now call (v, draws)).2.1.corrupted = true ↔
      call ≠ .reset ∧ (v.corrupted = true ∨ call.Raises source now v draws) := by
  cases call with
  | look ask => exact ⟨fun h => ⟨by simp, .inl h⟩, fun h => h.2.resolve_right id⟩
  | change m =>
    rw [perform_change, corrupted_settle, Mutation.verdict_eq_guarded_iff]
    exact ⟨fun h => ⟨by simp, h⟩, And.right⟩
  | reset =>
    rw [perform_reset]
    exact iff_of_false Bool.false_ne_true fun h => h.1 rfl
  | corrupt attempts =>
    rw [perform_corrupt, Call.Raises]
    cases Corruption.damage source attempts now v.root draws with
    | none => exact ⟨fun h => ⟨by simp, .inl h⟩, fun h => h.2.resolve_right Bool.false_ne_true⟩
    | some found => exact iff_of_true rfl ⟨by simp, .inr rfl⟩

/-- A change that is answered at all is refused for the protected directory just if it is a
trespass. -/
theorem refused_iff_isTrespass {source : Source σ} {now : Float} {m : Mutation} {draws : σ}
    (hok : (perform source now (.change m) (v, draws)).1.isOk) :
    (perform source now (.change m) (v, draws)).1 = .ok false ∧
        (perform source now (.change m) (v, draws)).2.1.lastError = some .protectedPath ↔
      m.IsTrespass := by
  rw [← Mutation.verdict_eq_guarded_iff now v.root m]
  rw [perform_change] at hok ⊢
  cases hm : m.verdict now v.root with
  | accepted root =>
    rw [settle_accepted]
    refine iff_of_false ?_ (by simp)
    rintro ⟨h, -⟩
    cases ho : (v.accepting root).outcome <;> rw [ho] at h <;> cases h
  | refused reason =>
    rw [settle_refused]
    refine iff_of_false ?_ (by simp)
    rintro ⟨-, h⟩
    exact Mutation.ne_protectedPath_of_refused hm (Option.some.inj h)
  | guarded =>
    rw [hm, settle_guarded] at hok
    rw [settle_guarded]
    cases ho : v.marked.outcome with
    | ok => exact iff_of_true ⟨rfl, rfl⟩ rfl
    | error fault =>
      rw [ho] at hok
      cases hok
  | unencodable content =>
    rw [hm, settle_unencodable] at hok
    cases hok

/-! ## Runs -/

namespace Watched

theorem run_concat (source : Source σ) (r : Watched σ) (calls : List (Float × Call))
    (call : Float × Call) :
    r.run source (calls ++ [call]) = (r.run source calls).after source call := by
  rw [run, run, List.foldl_append]
  rfl

/-- After a run the mark is up if it was before and there was no reset, or if some call raised it
and no reset came after. -/
theorem corrupted_run (source : Source σ) (r : Watched σ) (calls : List (Float × Call)) :
    (r.run source calls).volume.corrupted = true ↔
      (r.volume.corrupted = true ∧ ∀ call ∈ calls, call.2 ≠ .reset) ∨
      ∃ before call later, calls = before ++ call :: later ∧
        call.2.Raises source call.1 (r.run source before).volume (r.run source before).draws ∧
        ∀ call ∈ later, call.2 ≠ .reset := by
  induction calls using List.reverseRecOn with
  | nil => simp [run]
  | append_singleton calls last ih =>
    rw [run_concat, volume_after, corrupted_perform, ih]
    constructor
    · rintro ⟨hlast, (⟨hr, hcalls⟩ | ⟨before, call, later, rfl, hraises, hlater⟩) | hraises⟩
      · refine .inl ⟨hr, fun call hm => ?_⟩
        rcases List.mem_append.mp hm with hm | hm
        · exact hcalls call hm
        · exact List.mem_singleton.mp hm ▸ hlast
      · refine .inr ⟨before, call, later ++ [last], by simp, hraises, fun call' hm => ?_⟩
        rcases List.mem_append.mp hm with hm | hm
        · exact hlater call' hm
        · exact List.mem_singleton.mp hm ▸ hlast
      · exact .inr ⟨calls, last, [], rfl, hraises, by simp⟩
    · rintro (⟨hr, hcalls⟩ | ⟨before, call, later, heq, hraises, hlater⟩)
      · exact ⟨hcalls last (by simp), .inl (.inl ⟨hr, fun call hm => hcalls call (by simp [hm])⟩)⟩
      · rcases List.eq_nil_or_concat later with rfl | ⟨later, final, rfl⟩
        -- the call that raises the mark is the last one, or one before it
        · obtain ⟨rfl, hsame⟩ := List.append_inj' heq rfl
          obtain rfl := List.singleton_inj.mp hsame
          refine ⟨fun hreset => ?_, .inr hraises⟩
          rw [hreset] at hraises
          exact hraises
        · rw [List.concat_eq_append, ← List.cons_append, ← List.append_assoc] at heq
          obtain ⟨rfl, hsame⟩ := List.append_inj' heq rfl
          obtain rfl := List.singleton_inj.mp hsame
          rw [List.concat_eq_append] at hlater
          refine ⟨hlater last (by simp), .inl (.inr ⟨before, call, later, rfl, hraises, ?_⟩)⟩
          exact fun call' hm => hlater call' (by simp [hm])

/-- The volume of a run is led on by calls alone. -/
theorem leads_run (source : Source σ) (r : Watched σ) (calls : List (Float × Call)) :
    Run true r.volume (r.run source calls).volume := by
  induction calls using List.reverseRecOn with
  | nil => exact Relation.ReflTransGen.refl
  | append_singleton calls last ih =>
    rw [run_concat, volume_after]
    generalize r.run source calls = reached at ih ⊢
    obtain ⟨now, call⟩ := last
    cases call with
    | look ask => exact ih
    | change m => exact ih.tail (.change now m reached.volume)
    | reset =>
      rw [perform_reset]
      exact ih.tail (.reset now reached.volume rfl)
    | corrupt attempts =>
      refine ih.tail ?_
      have hstep : Step true reached.volume _ :=
        .corrupt attempts source now reached.draws reached.volume rfl
      rw [corruptWithin_eq] at hstep
      rw [perform_corrupt]
      cases hdamage : Corruption.damage source attempts now reached.volume.root reached.draws with
      | none =>
        rw [hdamage] at hstep
        exact hstep
      | some found =>
        rw [hdamage] at hstep
        exact hstep

end Watched

end Volume

end VirtualShell
