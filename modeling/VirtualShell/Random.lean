/-
  Sources of random numbers.

  A source draws from a state that is handed on. What is random about it is nobody's
  business here: everything that draws works with any source. `Script` is a source that
  plays out prepared draws first and then goes on with a linear congruential sequence.
-/

namespace VirtualShell

/-- A source of random numbers with states of type `σ`. -/
structure Source (σ : Type) where
  /-- A number from zero up to below one. -/
  unit : σ → Float × σ
  /-- An index below the given count, for picking from a list. -/
  pick : Nat → σ → Nat × σ
  /-- A number below the given count, for rolling between bounds. -/
  roll : Nat → σ → Nat × σ

/-- Prepared draws, and the state of the sequence that follows them. -/
structure Script where
  seed : Nat
  units : List Float := []
  /-- The number drawn in place of the sequence once the prepared ones are used up. -/
  unitAfter : Option Float := none
  picks : List Int := []
  rolls : List Int := []

namespace Script

/-- The number of states that the sequence runs through. -/
def period : Nat := 2147483648

/-- The sequence one step on. -/
def step (s : Script) : Nat × Script :=
  let next := (s.seed * 1103515245 + 12345) % period
  (next, { s with seed := next })

/-- A number below `count` out of the sequence. -/
def stepBelow (count : Nat) (s : Script) : Nat × Script :=
  let (n, s) := s.step
  (n / 65536 % count, s)

/-- The source that plays a script. -/
def source : Source Script where
  unit s := match s.units with
    | x :: rest => (x, { s with units := rest })
    | [] => match s.unitAfter with
      | some x => (x, s)
      | none =>
        let (n, s) := s.step
        (Float.ofNat n / 2147483648, s)
  pick count s := match s.picks with
    | n :: rest => ((n.emod count).toNat, { s with picks := rest })
    | [] => s.stepBelow count
  roll count s := match s.rolls with
    | n :: rest => ((n.emod count).toNat, { s with rolls := rest })
    | [] => s.stepBelow count

end Script

end VirtualShell
