import Mathlib.Order.Defs.Unbundled
import VirtualShell.Fault
/-
  Calls, step by step.

  A call runs on a state and hands on the state that it reaches, also when it is cut short.
  `Carries` says of a call that it only ever goes from a state to one that a relation allows,
  given how the call ended. Where the relation goes over from one step to the next, calls made of
  such calls are such calls again.
-/

namespace VirtualShell.Action

variable {σ τ α β : Type}

/-! ## What the steps do -/

/-- The fault of a call that was cut short. -/
def fault? : Except Fault α → Option Fault
  | .ok _ => none
  | .error fault => some fault

theorem bind_apply (call : Action σ α) (next : α → Action σ β) (s : σ) :
    (call >>= next) s = match call s with
      | (.ok a, s) => next a s
      | (.error fault, s) => (.error fault, s) := by
  show (ExceptT.bindCont next (call s).1) (call s).2 = _
  rcases call s with ⟨_ | _, _⟩ <;> rfl

theorem map_apply (f : α → β) (call : Action σ α) (s : σ) :
    (f <$> call) s = ((call s).1.map f, (call s).2) := by
  rcases h : call s with ⟨_ | _, _⟩ <;>
    simp [Functor.map, ExceptT.map, ExceptT.mk, StateT.bind, bind, h, Except.map] <;> rfl

theorem discard_apply (call : Action σ α) (s : σ) :
    (discard call : Action σ PUnit) s = ((call s).1.map fun _ => ⟨⟩, (call s).2) :=
  map_apply _ call s

theorem discard_apply_snd (call : Action σ α) (s : σ) :
    ((discard call : Action σ PUnit) s).2 = (call s).2 := by
  rw [discard_apply]

theorem fault?_discard_apply (call : Action σ α) (s : σ) :
    fault? ((discard call : Action σ PUnit) s).1 = fault? (call s).1 := by
  rw [discard_apply]
  cases (call s).1 <;> rfl

theorem get_bind_apply (next : σ → Action σ β) (s : σ) : (get >>= next) s = next s s := rfl

theorem attempt_apply (call : Action σ α) (s : σ) :
    attempt call s = (.ok (call s).1, (call s).2) := rfl

/-! ## Where calls lead -/

/-- A relation between the state before a call, the fault that cut the call short, and the state
after it, that goes over from the steps of a call to the call. -/
class IsCourse (R : σ → Option Fault → σ → Prop) : Prop where
  refl (s : σ) : R s none s
  trans {s s' s'' : σ} {fault : Option Fault} : R s none s' → R s' fault s'' → R s fault s''
  /-- A fault may be made part of an answer. -/
  caught {s s' : σ} {fault : Fault} : R s (some fault) s' → R s none s'

/-- A preorder of states, however the calls end. -/
def Along (R : σ → σ → Prop) (s : σ) (_ : Option Fault) (s' : σ) : Prop := R s s'

instance (R : σ → σ → Prop) [IsPreorder σ R] : IsCourse (Along R) where
  refl s := Std.Refl.refl (r := R) s
  trans h h' := IsTrans.trans (r := R) _ _ _ h h'
  caught h := h

/-- A call that leads from every state to one that the relation allows from there. -/
def Carries (R : σ → Option Fault → σ → Prop) (call : Action σ α) : Prop :=
  ∀ s, R s (fault? (call s).1) (call s).2

namespace Carries

variable {R : σ → Option Fault → σ → Prop}

theorem discard {call : Action σ α} (h : Carries R call) :
    Carries R (discard call : Action σ PUnit) := by
  intro s
  rw [fault?_discard_apply, discard_apply_snd]
  exact h s

theorem throw {fault : Fault} (h : ∀ s, R s (some fault) s) :
    Carries R (throw fault : Action σ α) := h

variable [IsCourse R]

theorem attempt {call : Action σ α} (h : Carries R call) : Carries R (attempt call) := by
  intro s
  have hs := h s
  show R s none (call s).2
  cases hresult : (call s).1 with
  | ok =>
    rw [hresult] at hs
    exact hs
  | error =>
    rw [hresult] at hs
    exact IsCourse.caught hs

theorem pure (a : α) : Carries R (pure a : Action σ α) := IsCourse.refl

theorem get : Carries R (get : Action σ σ) := IsCourse.refl

theorem bind {call : Action σ α} {next : α → Action σ β} (hc : Carries R call)
    (hn : ∀ a, Carries R (next a)) : Carries R (call >>= next) := by
  intro s
  rw [bind_apply]
  have h := hc s
  rcases hs : call s with ⟨_ | a, s'⟩
  · rw [hs] at h
    exact h
  · rw [hs] at h
    exact IsCourse.trans h (hn a s')

end Carries

end VirtualShell.Action
