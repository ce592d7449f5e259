import Mathlib.Logic.Relation
import VirtualShell.Proofs.Action
import VirtualShell.Proofs.FileSystem.Corruption
import VirtualShell.Proofs.FileSystem.Mutation
import VirtualShell.Proofs.Json.Visible
import VirtualShell.Proofs.Tree.Defaults
import VirtualShell.Proofs.Tree.Snapshot
/-
  What the calls on a volume do to it.

  Every call comes down to one of three things: a verdict is settled, a whole new tree is put
  in, or nothing changes. For each of them the volume after the call is written out here,
  with the store as the write left it, whether the write succeeded or not.
-/

namespace VirtualShell

/-- The tree after a verdict, given the one before. -/
def Verdict.tree (old : Node) : Verdict → Node
  | accepted root => root
  | _ => old

namespace Volume

theorem isVisible_toJson (v : Volume) : v.toJson.IsVisible := Json.isVisible_write v.snapshot.encode

/-- The volume with the store as writing the snapshot leaves it. -/
def saved (v : Volume) : Volume := { v with store := (v.store.write v.key v.toJson).2 }

/-- What comes of writing the snapshot. -/
def outcome (v : Volume) : Except Fault Unit := (v.store.write v.key v.toJson).1.mapError .store

/-- The volume with the changed tree in it, not yet written. -/
def accepting (root : Node) (v : Volume) : Volume := { v with root := root, lastError := none }

/-- The volume with the mark that a guarded verdict leaves, not yet written. -/
def marked (v : Volume) : Volume := { v with corrupted := true }

/-- The volume with the reason for a refusal. -/
def refusing (reason : Refusal) (v : Volume) : Volume := { v with lastError := some reason }

/-- The volume with another tree and mark in it, not yet written. -/
def replacing (root : Node) (corrupted : Bool) (v : Volume) : Volume :=
  { v with root := root, corrupted := corrupted, lastError := none }

/-- A write fails by the store alone. -/
theorem outcome_cases (v : Volume) :
    v.outcome = .ok () ∨ ∃ fault, v.outcome = .error (.store fault) := by
  rw [outcome]
  cases (v.store.write v.key v.toJson).1 with
  | ok => exact .inl rfl
  | error fault => exact .inr ⟨fault, rfl⟩

theorem persist_eq (v : Volume) : persist v = (v.outcome, v.saved) := rfl

theorem settle_accepted (root : Node) (v : Volume) :
    settle (.accepted root) v =
      ((v.accepting root).outcome.map fun _ => true, (v.accepting root).saved) := by
  rw [settle, Action.bind_apply]
  show ((persist >>= fun _ => pure true : Action Volume Bool) (v.accepting root)) = _
  rw [Action.bind_apply, persist_eq]
  cases (v.accepting root).outcome <;> rfl

theorem settle_refused (reason : Refusal) (v : Volume) :
    settle (.refused reason) v = (.ok false, v.refusing reason) := rfl

theorem settle_guarded (v : Volume) :
    settle .guarded v = (v.marked.outcome.map fun _ => false,
      if v.marked.outcome.isOk then v.marked.saved.refusing .protectedPath else v.marked.saved) := by
  rw [settle, Action.bind_apply]
  show (persist >>= fun _ => _ : Action Volume Bool) v.marked = _
  rw [Action.bind_apply, persist_eq]
  cases v.marked.outcome <;> rfl

theorem settle_unencodable (content : Text) (v : Volume) :
    settle (.unencodable content) v = (.error (.unencodable content), v) := rfl

theorem replaceRoot_eq (root : Node) (corrupted : Bool) (v : Volume) :
    replaceRoot root corrupted v =
      ((v.replacing root corrupted).outcome, (v.replacing root corrupted).saved) := rfl

/-- A change is cut short by the store, or for content without a size. -/
theorem fault_of_settle {verdict : Verdict} {v : Volume} {fault : Fault}
    (h : (settle verdict v).1 = .error fault) :
    (∃ f, fault = .store f) ∨
      ∃ content, verdict = .unencodable content ∧ fault = .unencodable content := by
  cases verdict with
  | accepted root =>
    rw [settle_accepted] at h
    rcases (v.accepting root).outcome_cases with ho | ⟨f, ho⟩ <;> rw [ho] at h <;> cases h
    exact .inl ⟨f, rfl⟩
  | refused reason => cases h
  | guarded =>
    rw [settle_guarded] at h
    rcases v.marked.outcome_cases with ho | ⟨f, ho⟩ <;> rw [ho] at h <;> cases h
    exact .inl ⟨f, rfl⟩
  | unencodable content =>
    cases h
    exact .inr ⟨content, rfl, rfl⟩

/-! ## The tree afterwards -/

theorem root_settle (verdict : Verdict) (v : Volume) :
    (settle verdict v).2.root = verdict.tree v.root := by
  cases verdict with
  | accepted root => rw [settle_accepted]; rfl
  | refused reason => rfl
  | guarded => rw [settle_guarded]; dsimp only; split <;> rfl
  | unencodable content => rfl

theorem root_apply (now : Float) (m : Mutation) (v : Volume) :
    (apply now m v).2.root = (m.verdict now v.root).tree v.root := root_settle _ v

theorem corruptWithin_eq {σ : Type} (attempts : Nat) (source : Source σ) (now : Float)
    (v : Volume) (s : σ) : corruptWithin attempts source now (v, s) =
      match Corruption.damage source attempts now v.root s with
      | none => (.error .unfinished, v, s)
      | some (root, s) => ((replaceRoot root true v).1, (replaceRoot root true v).2, s) := by
  rw [corruptWithin, Action.get_bind_apply]
  dsimp only
  cases Corruption.damage source attempts now v.root s <;> rfl

/-! ## Runs -/

/-- One call on a volume that changes it: a change of the tree at some instant, and, where whole
trees may be replaced, a reset or damage drawn from any source, with any bound on the search for
a free name. -/
inductive Step (mayReplace : Bool) : Volume → Volume → Prop
  | change (now : Float) (m : Mutation) (v : Volume) : Step mayReplace v (apply now m v).2
  | reset (now : Float) (v : Volume) (h : mayReplace = true) : Step mayReplace v (reset now v).2
  | corrupt {σ : Type} (attempts : Nat) (source : Source σ) (now : Float) (draws : σ) (v : Volume)
    (h : mayReplace = true) :
    Step mayReplace v (corruptWithin attempts source now (v, draws)).2.1

/-- Any number of such calls. -/
def Run (mayReplace : Bool) : Volume → Volume → Prop := Relation.ReflTransGen (Step mayReplace)

instance (mayReplace : Bool) : IsPreorder Volume (Run mayReplace) where
  refl _ := Relation.ReflTransGen.refl
  trans _ _ _ := Relation.ReflTransGen.trans

theorem Step.isConsistent {mayReplace : Bool} {v w : Volume} (h : Step mayReplace v w)
    (hv : v.root.IsConsistent) : w.root.IsConsistent := by
  cases h with
  | change now m =>
    rw [root_apply]
    cases hm : m.verdict now v.root with
    | accepted root => exact (Mutation.effect_of_accepted hm).isConsistent hv
    | refused | guarded | unencodable => exact hv
  | reset now => exact Node.isConsistent_defaultTree now
  | corrupt attempts source now draws =>
    rw [corruptWithin_eq]
    cases hd : Corruption.damage source attempts now v.root draws with
    | none => exact hv
    | some p => exact Corruption.isConsistent_damage hv hd

theorem Run.isConsistent {mayReplace : Bool} {v w : Volume} (h : Run mayReplace v w)
    (hv : v.root.IsConsistent) : w.root.IsConsistent := by
  induction h with
  | refl => exact hv
  | tail _ hstep ih => exact hstep.isConsistent ih

/-! ## Stores that take everything -/

end Volume

/-- A store in memory that refuses no write. -/
structure Store.TakesAll (store : Store) : Prop where
  memory : ∃ texts, store.backing = .memory texts
  refuses (attempt : Nat) : store.refuses attempt = false

theorem Store.TakesAll.write {store : Store} (h : store.TakesAll) (key data : Text) :
    (store.write key data).1 = .ok () ∧ (store.write key data).2.TakesAll := by
  obtain ⟨texts, hbacking⟩ := h.memory
  rw [Store.write, h.refuses, hbacking]
  exact ⟨rfl, ⟨_, rfl⟩, h.refuses⟩

namespace Volume

theorem takesAll_settle {v : Volume} (h : v.store.TakesAll) (verdict : Verdict) :
    (settle verdict v).2.store.TakesAll := by
  have hsaved (w : Volume) (hw : w.store = v.store) : w.saved.store.TakesAll := by
    rw [saved, hw]
    exact (h.write _ _).2
  cases verdict with
  | accepted root =>
    rw [settle_accepted]
    exact hsaved (v.accepting root) rfl
  | refused | unencodable => exact h
  | guarded =>
    rw [settle_guarded]
    dsimp only
    split <;> exact hsaved v.marked rfl

/-- No call takes from a store that it takes everything. -/
theorem Run.takesAll {mayReplace : Bool} {v w : Volume} (h : Run mayReplace v w)
    (hv : v.store.TakesAll) : w.store.TakesAll := by
  induction h with
  | refl => exact hv
  | @tail v _ _ hstep ih =>
    cases hstep with
    | change now m => exact takesAll_settle ih (m.verdict now _)
    | reset now => exact (ih.write _ _).2
    | corrupt attempts source now draws =>
      rw [corruptWithin_eq]
      split
      · exact ih
      · exact (ih.write _ _).2

/-! ## Where runs start -/

theorem isConsistent_of_load {now : Float} {store : Store} {key : Text} {v : Volume}
    (h : load now store key = .ok v) : v.root.IsConsistent := by
  rw [load] at h
  split at h
  · cases h
  · cases h
    exact Node.isConsistent_defaultTree now
  · split at h
    · rename_i s hs
      cases h
      exact Snapshot.isConsistent_of_read hs
    · split at h
      · cases h
        exact Node.isConsistent_defaultTree now
      · cases h

theorem isConsistent_of_ofText {now : Float} {t : Text} {store : Store} {key : Text} {v : Volume}
    (h : ofText now t store key = .ok v) : v.root.IsConsistent := by
  obtain ⟨s, hs, h⟩ := bind_eq_ok.mp h
  cases h
  exact Snapshot.isConsistent_of_read hs

end Volume

end VirtualShell
