import VirtualShell.Bus
import VirtualShell.Json.Writer
import VirtualShell.Proofs.Action
/-
  Who is called for a message, and with what.

  A message is delivered by calls of handlers, one after another. As long as handlers return
  normally all the calls are made, and which ones they are does not depend on what the handlers do:
  `publish_of_isKey` reads them off the route. For messages that name their action and their app by
  texts, if at all, `publish_calls` says what the route comes to. A message with a payload goes to
  those who serve the app that it names. It should then go to nobody who serves the system; that
  fails in one case only, where it names no app.
-/

namespace VirtualShell

variable {σ : Type}

/-- A handler that returns normally, whatever it is given and in whatever state. -/
def Subscription.Returns (l : Subscription σ) : Prop :=
  ∀ (argument : Json) (s : σ), ∃ s', l.handle argument s = (.ok (), s')

/-- One who serves an action and notes, under a number, what is handed over. -/
def Subscription.noting (n : Nat) (appId : Option Text) (action : Text) :
    Subscription (List (Nat × Text)) :=
  ⟨appId, action, fun argument => modify (· ++ [(n, argument.write)])⟩

theorem Subscription.returns_noting (n : Nat) (appId : Option Text) (action : Text) :
    (noting n appId action).Returns := fun _ _ => ⟨_, rfl⟩

/-- One call of a handler. -/
structure Call (σ : Type) where
  subscription : Subscription σ
  argument : Json

/-- These calls, each made once and in this order, and nothing else, lead from one state to
another, and all of them return normally. -/
inductive Calls : List (Call σ) → σ → σ → Prop
  | none (s : σ) : Calls [] s s
  | call {c : Call σ} {rest : List (Call σ)} {s s' s'' : σ} :
    c.subscription.handle c.argument s = (.ok (), s') → Calls rest s' s'' → Calls (c :: rest) s s''

namespace Route

variable {fields : Entries Json}

theorem ofFields_of_payload {payload : Json} (h : fields.get? "payload" = some payload) :
    ofFields fields = ⟨Json.fieldOr .null "appId" fields, Json.fieldOr .null "action" fields,
      if payload.isSet then payload else .object []⟩ := by
  rw [ofFields, h]

theorem ofFields_of_no_payload (h : fields.get? "payload" = none) :
    ofFields fields = ⟨.null, Json.fieldOr .null "action" fields, .object fields⟩ := by
  rw [ofFields, h]

/-- A field that holds a text, or nothing where there is none. -/
def optional (t : Option Text) : Json := (t.map Json.text).getD .null

theorem isKey_optional (t : Option Text) : isKey (optional t) = true := by
  cases t <;> rfl

theorem namesApp_optional (appId t : Option Text) :
    namesApp appId (optional t) = decide (appId = t) := by
  cases t with
  | none => cases appId <;> rfl
  | some => rfl

theorem namesAction_optional (action : Text) (t : Option Text) :
    namesAction action (optional t) = decide (t = some action) := by
  cases t <;> simp [namesAction, optional]

end Route

namespace Bus

variable {bus : Bus σ} {fields : Entries Json}

/-- The calls by which an argument is handed to one after another. -/
def callsWith (argument : Json) (bus : Bus σ) : List (Call σ) := bus.map (⟨·, argument⟩)

/-- Those who serve an action for an app, or without an app where none is given. -/
def serving (action appId : Option Text) (bus : Bus σ) : Bus σ :=
  bus.filter fun l => action = some l.action ∧ l.appId = appId

/-- Handlers that return normally are all called. -/
theorem deliver_of_returns (hbus : ∀ l ∈ bus, l.Returns) (argument : Json) :
    ∀ s, ∃ s', deliver argument bus s = (.ok (), s') ∧ Calls (bus.callsWith argument) s s' := by
  induction bus with
  | nil => exact fun s => ⟨s, rfl, .none s⟩
  | cons l rest ih =>
    intro s
    rw [List.forall_mem_cons] at hbus
    obtain ⟨s', hcall⟩ := hbus.1 argument s
    obtain ⟨s'', hrest, hcalls⟩ := ih hbus.2 s'
    refine ⟨s'', ?_, .call hcall hcalls⟩
    rw [deliver, Action.bind_apply, hcall]
    exact hrest

/-- A message whose route can be looked up is handed to those whom the route leads to. -/
theorem publish_of_isKey (hbus : ∀ l ∈ bus, l.Returns)
    (hkey : (Route.isKey (Route.ofFields fields).appId &&
      Route.isKey (Route.ofFields fields).action) = true) (s : σ) :
    let route := Route.ofFields fields
    ∃ s', bus.publish (.object fields) s = (.ok !(bus.on route).isEmpty, s') ∧
      Calls ((bus.on route).callsWith route.argument) s s' := by
  intro route
  have hon : ∀ l ∈ bus.on route, l.Returns := fun l hl => hbus l (List.mem_filter.mp hl).1
  obtain ⟨s', hdeliver, hcalls⟩ := deliver_of_returns hon route.argument s
  refine ⟨s', ?_, hcalls⟩
  rw [Bool.and_eq_true] at hkey
  rw [publish]
  dsimp only
  rw [hkey.1, hkey.2, if_neg (by simp)]
  show (deliver route.argument (bus.on route) >>= fun _ => _) s = _
  rw [Action.bind_apply, hdeliver]
  rfl

/-- A message whose route cannot be looked up reaches nobody and is a fault. -/
theorem publish_of_not_isKey (hkey : (Route.isKey (Route.ofFields fields).appId &&
    Route.isKey (Route.ofFields fields).action) = false) (s : σ) :
    bus.publish (.object fields) s = (.error .wrongKind, s) := by
  rw [Bool.and_eq_false_iff] at hkey
  rw [publish]
  dsimp only
  rw [if_pos (by rcases hkey with h | h <;> simp [h])]
  rfl

/-- A message whose route names an action and an app by texts, if at all. -/
theorem publish_of_ofFields_eq (hbus : ∀ l ∈ bus, l.Returns) {action appId : Option Text}
    {argument : Json} (hroute : Route.ofFields fields =
      ⟨Route.optional appId, Route.optional action, argument⟩) (s : σ) :
    ∃ s', bus.publish (.object fields) s = (.ok !(bus.serving action appId).isEmpty, s') ∧
      Calls ((bus.serving action appId).callsWith argument) s s' := by
  have hon : bus.on (Route.ofFields fields) = bus.serving action appId := by
    refine List.filter_congr fun l _ => ?_
    rw [hroute, Route.leadsTo, Route.namesApp_optional, Route.namesAction_optional]
    simp [and_comm]
  have hkey : (Route.isKey (Route.ofFields fields).appId &&
      Route.isKey (Route.ofFields fields).action) = true := by
    rw [hroute, Route.isKey_optional, Route.isKey_optional]
    rfl
  have hpublish := publish_of_isKey hbus hkey s
  dsimp only at hpublish
  rwa [hon, hroute] at hpublish

/-- A message that names its action and its app by texts, if at all. The calls made for it are made
once each and in the order of subscription. If it has a payload, they are those of all who serve the
action for the app of that name, or for no app where it names none, and each gets the payload, or an
empty object for one that counts as not set. If it has no payload, they are those of all who serve
the action without an app, and each gets the message. So one who serves no app gets a bare payload
only of a message that names no app. The answer is whether anybody was called. -/
theorem publish_calls (hbus : ∀ l ∈ bus, l.Returns) {action appId : Option Text}
    (haction : fields.get? "action" = action.map Json.text)
    (happ : fields.get? "appId" = appId.map Json.text) (s : σ) :
    ∃ calls s', bus.publish (.object fields) s = (.ok !calls.isEmpty, s') ∧ Calls calls s s' ∧
      (∀ payload, fields.get? "payload" = some payload → calls =
        (bus.serving action appId).callsWith (if payload.isSet then payload else .object [])) ∧
      (fields.get? "payload" = none →
        calls = (bus.serving action none).callsWith (.object fields)) ∧
      ∀ c ∈ calls, c.subscription.appId = none →
        (fields.get? "payload" = none ∧ c.argument = .object fields) ∨
          fields.get? "appId" = none := by
  have hactionField : Json.fieldOr .null "action" fields = Route.optional action := by
    rw [Json.fieldOr, haction, Route.optional]
  have happField : Json.fieldOr .null "appId" fields = Route.optional appId := by
    rw [Json.fieldOr, happ, Route.optional]
  cases hpayload : fields.get? "payload" with
  | some payload =>
    have hroute := Route.ofFields_of_payload hpayload
    rw [hactionField, happField] at hroute
    obtain ⟨s', hpublish, hcalls⟩ := publish_of_ofFields_eq hbus hroute s
    refine ⟨_, s', ?_, hcalls, fun _ h => by cases h; rfl, nofun, fun c hc hnone => .inr ?_⟩
    · rw [hpublish, callsWith, List.isEmpty_map]
    · -- who is called for a message with a payload serves the app that it names
      obtain ⟨l, hl, rfl⟩ := List.mem_map.mp hc
      have hserves := of_decide_eq_true (List.mem_filter.mp hl).2
      rw [happ, ← hserves.2, show l.appId = none from hnone]
      rfl
  | none =>
    have hroute : Route.ofFields fields =
        ⟨Route.optional none, Route.optional action, .object fields⟩ := by
      rw [Route.ofFields_of_no_payload hpayload, hactionField]
      rfl
    obtain ⟨s', hpublish, hcalls⟩ := publish_of_ofFields_eq hbus hroute s
    refine ⟨_, s', ?_, hcalls, nofun, fun _ => rfl, fun c hc _ => .inl ⟨rfl, ?_⟩⟩
    · rw [hpublish, callsWith, List.isEmpty_map]
    · obtain ⟨l, -, rfl⟩ := List.mem_map.mp hc
      rfl

/-- Of those who serve one action only those of the app are called, with an empty object in place
of a payload that counts as not set. -/
theorem publish_calls_in_app :
    let first := Subscription.noting 1 (some "notes") "open"
    let second := Subscription.noting 2 none "open"
    let third := Subscription.noting 3 (some "notes") "open"
    let bus := [first, second, third]
    let fields : Entries Json :=
      [("payload", .boolean false), ("appId", .text "notes"), ("action", .text "open")]
    (∀ l ∈ bus, l.Returns) ∧ fields.get? "action" = (some "open" : Option Text).map Json.text ∧
      fields.get? "appId" = (some "notes" : Option Text).map Json.text ∧
      ∃ s', publish bus (.object fields) [] = (.ok true, s') ∧
        Calls [⟨first, .object []⟩, ⟨third, .object []⟩] [] s' ∧
        s' = [(1, Text.ofString "\x7b\x7d"), (3, Text.ofString "\x7b\x7d")] := by
  intro first second third bus fields
  have hbus : ∀ l ∈ bus, l.Returns := by
    simp only [bus, List.forall_mem_cons]
    exact ⟨Subscription.returns_noting _ _ _, Subscription.returns_noting _ _ _,
      Subscription.returns_noting _ _ _, nofun⟩
  have haction : fields.get? "action" = (some "open" : Option Text).map Json.text := rfl
  have happ : fields.get? "appId" = (some "notes" : Option Text).map Json.text := rfl
  obtain ⟨calls, s', hpublish, hcalls, hpayload, -, -⟩ := publish_calls hbus haction happ []
  obtain rfl : calls = [⟨first, .object []⟩, ⟨third, .object []⟩] := hpayload (.boolean false) rfl
  have hnoted : (publish bus (.object fields) []).2 =
      [(1, Text.ofString "\x7b\x7d"), (3, Text.ofString "\x7b\x7d")] := by decide +kernel
  rw [hpublish] at hnoted
  exact ⟨hbus, haction, happ, s', hpublish, hcalls, hnoted⟩

/-- A message with a payload that names no app: it reaches one who serves the system, and that one
is handed the bare payload. -/
theorem publish_payload_to_system :
    let bus := [Subscription.noting 1 none "factoryReset"]
    let fields : Entries Json := [("action", .text "factoryReset"), ("payload", .object [])]
    (∀ l ∈ bus, l.Returns ∧ l.appId = none) ∧
      publish bus (.object fields) [] = (.ok true, [(1, (Json.object []).write)]) ∧
      fields.get? "payload" = some (.object []) ∧ fields.get? "appId" = none := by
  refine ⟨?_, rfl, rfl, rfl⟩
  simp only [List.forall_mem_cons]
  exact ⟨⟨Subscription.returns_noting _ _ _, rfl⟩, nofun⟩

end Bus

end VirtualShell
