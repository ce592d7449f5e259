import VirtualShell.Fault
import VirtualShell.Json.Shown
/-
  The bus that carries actions to those who serve them.

  A message is an object. With a payload it is meant for one app, and those that
  subscribed to the action under the name of that app get the payload; without one it is
  meant for the system, and those that subscribed without an app get the whole message.
  Who is called follows from the message alone, in the order of subscription.
-/

namespace VirtualShell

/-- Somebody who serves an action, for an app or for the system. -/
structure Subscription (σ : Type) where
  appId : Option Text
  action : Text
  handle : Json → Action σ Unit

/-- All who serve actions, in the order in which they came. -/
abbrev Bus (σ : Type) := List (Subscription σ)

/-- Where a message goes, and what is handed over there. -/
structure Route where
  appId : Json
  action : Json
  argument : Json

namespace Route

/-- The route of a message with the given fields. A payload that counts as not set is
handed over as an empty object. -/
def ofFields (fields : Entries Json) : Route :=
  let action := Json.fieldOr .null "action" fields
  match fields.get? "payload" with
  | some payload =>
    ⟨Json.fieldOr .null "appId" fields, action, if payload.isSet then payload else .object []⟩
  | none => ⟨.null, action, .object fields⟩

/-- Whether a value can be looked up as the name of an action or an app. -/
def isKey : Json → Bool
  | .array _ => false
  | .object _ => false
  | _ => true

/-- Whether the value names the app, or no app where there is none. -/
def namesApp (appId : Option Text) : Json → Bool
  | .null => appId.isNone
  | .text t => appId = some t
  | _ => false

/-- Whether the value names the action. -/
def namesAction (action : Text) : Json → Bool
  | .text t => t = action
  | _ => false

/-- Whether the route leads to a subscription. -/
def leadsTo {σ : Type} (route : Route) (s : Subscription σ) : Bool :=
  namesApp s.appId route.appId && namesAction s.action route.action

end Route

namespace Bus

variable {σ : Type}

/-- The subscriptions that a route leads to. -/
def on (bus : Bus σ) (route : Route) : Bus σ := bus.filter route.leadsTo

/-- The argument handed to one after another; a handler that fails ends the call. -/
def deliver (argument : Json) : Bus σ → Action σ Unit
  | [] => pure ()
  | s :: rest => do
    s.handle argument
    deliver argument rest

/-- A message delivered: whether there was anybody to deliver it to. -/
def publish (bus : Bus σ) : Json → Action σ Bool
  | .object fields => do
    let route := Route.ofFields fields
    if !Route.isKey route.appId || !Route.isKey route.action then throw .wrongKind
    deliver route.argument (bus.on route)
    return !(bus.on route).isEmpty
  | _ => throw .noSuchMember

end Bus

end VirtualShell
