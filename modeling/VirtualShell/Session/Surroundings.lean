import VirtualShell.Session.Bindings
/-
  What a session stands in, and the host made of it.

  The bus of a host serves the action that runs a line, and running a line turns to the
  host again: a reply of the assistant may ask for a line that asks the assistant. Each
  such turn uses up a reply, so the hosts are made one on top of the other, with as many
  levels as there can be turns.
-/

namespace VirtualShell

/-- What a session stands in. -/
structure Surroundings (ω : Type) where
  source : Source ω
  sleep : Number → ω → ω
  lookUpAddress : Action ω Text
  /-- The reply of the assistant to a prompt, if there is an assistant. -/
  ask : Option (Text → Action ω Text)
  /-- Whether the actions in a reply are carried out. -/
  obeys : Bool
  machine : Machine
  /-- Who serves actions besides the session itself. -/
  listeners : Bus (Session ω)

namespace Surroundings

variable {ω : Type}

/-- The reply to a prompt, obeyed on the bus if replies are. -/
def reply (w : Surroundings ω) (bus : Bus (Session ω)) (ask : Text → Action ω Text)
    (prompt : Text) : Action (Session ω) Text := do
  let reply ← Session.onOutside (ask prompt)
  if w.obeys then bus.obey reply else return reply

/-- The host with the given bus. -/
def hostOn (w : Surroundings ω) (bus : Bus (Session ω)) : Host ω where
  source := w.source
  sleep := w.sleep
  lookUpAddress := w.lookUpAddress
  assistant := w.ask.map (w.reply bus)
  bus := bus
  machine := w.machine

/-- The bus on which a line is run in the way given. -/
def busWith (w : Surroundings ω) (run : Text → Action (Session ω) Unit) : Bus (Session ω) :=
  Session.volumeActions w.source ++ [Session.terminalAction run] ++ w.listeners

/-- The bus on which lines may be run by way of lines, as many turns deep as given. -/
def bus (w : Surroundings ω) : Nat → Bus (Session ω)
  | 0 => w.busWith fun _ => throw .endless
  | turns + 1 => w.busWith fun line => do
    discard <| Session.run (w.hostOn (w.bus turns)) line

/-- The host with that bus. -/
def host (w : Surroundings ω) (turns : Nat) : Host ω := w.hostOn (w.bus turns)

end Surroundings

end VirtualShell
