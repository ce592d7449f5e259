import VirtualShell.Session.Surroundings
/-
  Scripted surroundings.

  Everything that would come from outside is prepared: the draws, the replies of the
  assistant, the address. What is asked for is put on record in order. A session in such
  surroundings can be run again and comes out the same.
-/

namespace VirtualShell

/-- Something that was asked of the outside. -/
inductive Request where
  /-- An app was to be opened. -/
  | openApp (message : Json)
  /-- Some seconds were to be waited. -/
  | sleep (seconds : Number)
  /-- The assistant was asked. -/
  | prompt (t : Text)
  /-- The address was asked for. -/
  | address

/-- What is prepared, and what was asked for. -/
structure Scripted where
  draws : Script
  /-- The replies to come; for one that is missing the assistant fails. -/
  replies : List (Option Text) := []
  address : Option Text := none
  record : List Request := []

namespace Scripted

/-- One more request on record. -/
def note (r : Request) (s : Scripted) : Scripted := { s with record := s.record ++ [r] }

/-- A draw from the script. -/
def draw {α : Type} (next : Script → α × Script) (s : Scripted) : α × Scripted :=
  let (a, draws) := next s.draws
  (a, { s with draws := draws })

/-- The source that plays the script. -/
def source : Source Scripted where
  unit := draw Script.source.unit
  pick n := draw (Script.source.pick n)
  roll n := draw (Script.source.roll n)

/-- The address, if one is prepared. -/
def lookUpAddress : Action Scripted Text := do
  modify (note .address)
  match (← get).address with
  | some t => return t
  | none => throw (.unreachable "offline")

/-- The next reply. -/
def ask (prompt : Text) : Action Scripted Text := do
  modify (note (.prompt prompt))
  let s ← get
  match s.replies with
  | [] => throw (.unreachable "offline")
  | reply :: rest =>
    set { s with replies := rest }
    match reply with
    | some t => return t
    | none => throw (.unreachable "offline")

/-- Puts on record which app was to be opened. -/
def recorder : Subscription (Session Scripted) :=
  ⟨none, "openApp", fun message => Session.onOutside (modify (note (.openApp message)))⟩

/-- Somebody who serves an action and fails at it. -/
def failing (appId : Option Text) (action : Text) : Subscription (Session Scripted) :=
  ⟨appId, action, fun _ => throw (.handler "boom")⟩

/-- The scripted surroundings: with an assistant or without, and with some who fail at
what they serve. -/
def surroundings (assisted obeys : Bool) (machine : Machine)
    (failures : Bus (Session Scripted)) : Surroundings Scripted where
  source := source
  sleep seconds := note (.sleep seconds)
  lookUpAddress := lookUpAddress
  ask := if assisted then some ask else none
  obeys := obeys
  machine := machine
  listeners := failures ++ [recorder]

end Scripted

end VirtualShell
