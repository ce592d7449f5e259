import Mathlib.Logic.Basic
import VirtualShell.Proofs.Bus
import VirtualShell.Proofs.Reply.Block
/-
  Replies that are obeyed.

  The actions of a reply are published one after another, and each is confirmed right after. Both
  can fail although all handlers return normally: a list or an object is no name that could be
  looked up, and some confirmations ask for a word of the payload, which only an object has. Where
  neither is the case of any action, all of them are published, each once and in order, and there is
  a text to show. Otherwise the first such action ends the call, and those behind it are lost.
-/

namespace VirtualShell

namespace Reply

/-- The actions that are confirmed with a word of their payload. -/
def quotingActions : List Text := ["executeTerminalCommand", "createFile", "createNote"]

/-- An action whose route can be looked up: neither its name nor, if it has a payload, the name of
its app is a list or an object. -/
structure IsRoutable (fields : Entries Json) : Prop where
  action : Route.isKey (Json.fieldOr .null "action" fields) = true
  appId : fields.has "payload" = true → Route.isKey (Json.fieldOr .null "appId" fields) = true

/-- An action that can be confirmed: the payload is null, or an object, where a word of it is
asked for. -/
def IsConfirmable (fields : Entries Json) : Prop :=
  ∀ name ∈ quotingActions, fields.get? "action" = some (.text name) →
    ∀ payload, fields.get? "payload" = some payload →
      payload = .null ∨ ∃ inner, payload = .object inner

/-- An action that can be published and confirmed. -/
def IsServable (fields : Entries Json) : Prop := IsRoutable fields ∧ IsConfirmable fields

variable {fields : Entries Json}

/-! ## Routes -/

theorem isRoutable_iff : IsRoutable fields ↔ (Route.isKey (Route.ofFields fields).appId &&
    Route.isKey (Route.ofFields fields).action) = true := by
  rw [Bool.and_eq_true]
  cases hpayload : fields.get? "payload" with
  | some payload =>
    have hhas : fields.has "payload" = true := by rw [Entries.has, hpayload]; rfl
    rw [Route.ofFields_of_payload hpayload]
    exact ⟨fun h => ⟨h.appId hhas, h.action⟩, fun h => ⟨h.2, fun _ => h.1⟩⟩
  | none =>
    have hhas : fields.has "payload" = false := by rw [Entries.has, hpayload]; rfl
    rw [Route.ofFields_of_no_payload hpayload]
    exact ⟨fun h => ⟨rfl, h.action⟩, fun h => ⟨h.2, fun hp => absurd hp (by simp [hhas])⟩⟩

/-! ## Confirmations -/

section Confirmation

variable {action payload : Json}

theorem exists_confirmForApp_object (action : Json) (inner : Entries Json) :
    ∃ t, confirmForApp action (.object inner) = .ok t := by
  rw [confirmForApp]
  dsimp only
  repeat' split
  all_goals exact ⟨_, rfl⟩

theorem confirmForApp_of_quoting (hpayload : ∀ inner, payload ≠ .object inner) {name : Text}
    (hname : name ∈ quotingActions) :
    confirmForApp (.text name) payload = .error .noSuchMember := by
  have hasked (key : Text) : payloadField key payload = .error .noSuchMember := by
    cases payload with
    | object inner => exact absurd rfl (hpayload inner)
    | _ => rfl
  simp only [quotingActions, List.mem_cons, List.not_mem_nil, or_false] at hname
  rcases hname with rfl | rfl | rfl <;> rw [confirmForApp, hasked, hasked, hasked] <;> rfl

theorem exists_confirmForApp_of_not_quoting
    (h : ∀ name ∈ quotingActions, action ≠ .text name) (payload : Json) :
    ∃ t, confirmForApp action payload = .ok t := by
  have hother (name : Text) (hname : name ∈ quotingActions) :
      ¬Route.namesAction name action = true := by
    cases action with
    | text t => exact fun e => h name hname (by rw [of_decide_eq_true e])
    | _ => nofun
  refine ⟨"Got it. Performing the requested action in the app.", ?_⟩
  rw [confirmForApp]
  dsimp only
  rw [if_neg (hother _ (by simp [quotingActions])), if_neg (hother _ (by simp [quotingActions])),
    if_neg (hother _ (by simp [quotingActions]))]

end Confirmation

theorem exists_confirm (h : IsConfirmable fields) : ∃ t, confirm fields = .ok t := by
  rw [confirm, Json.fieldOr, Json.fieldOr, Json.fieldOr]
  cases hpayload : fields.get? "payload" with
  | none => exact ⟨_, rfl⟩
  | some payload =>
    rw [Option.getD_some]
    cases payload with
    | null => exact ⟨_, rfl⟩
    | object inner => exact exists_confirmForApp_object _ inner
    | _ =>
      refine exists_confirmForApp_of_not_quoting (fun name hname haction => ?_) _
      have hnamed : fields.get? "action" = some (.text name) := by
        cases hget : fields.get? "action" with
        | none =>
          rw [hget] at haction
          cases haction
        | some action =>
          rw [hget] at haction
          exact congrArg some haction
      -- a word of the payload is asked for, so it is null or an object
      rcases h name hname hnamed _ hpayload with hnull | ⟨inner, hobject⟩
      · cases hnull
      · cases hobject

theorem confirm_of_not_isConfirmable (h : ¬IsConfirmable fields) :
    confirm fields = .error .noSuchMember := by
  simp only [IsConfirmable, not_forall, not_or, not_exists] at h
  obtain ⟨name, hname, haction, payload, hpayload, hnull, hobject⟩ := h
  rw [confirm, Json.fieldOr, Json.fieldOr, hpayload, haction]
  cases payload with
  | null => exact absurd rfl hnull
  | object inner => exact absurd rfl (hobject inner)
  | _ => exact confirmForApp_of_quoting hobject hname

end Reply

/-! ## Publishing one action after another -/

/-- These actions, each published once and in this order, lead from one state to another. -/
inductive Publishes {σ : Type} (bus : Bus σ) : List (Entries Json) → σ → σ → Prop
  | none (s : σ) : Publishes bus [] s s
  | publish {fields : Entries Json} {rest : List (Entries Json)} {answered : Bool} {s s' s'' : σ} :
    bus.publish (.object fields) s = (.ok answered, s') → Publishes bus rest s' s'' →
    Publishes bus (fields :: rest) s s''

theorem Publishes.concat {σ : Type} {bus : Bus σ} {actions : List (Entries Json)}
    {fields : Entries Json} {answered : Bool} {s s' s'' : σ} (h : Publishes bus actions s s')
    (hlast : bus.publish (.object fields) s' = (.ok answered, s'')) :
    Publishes bus (actions ++ [fields]) s s'' := by
  induction h with
  | none s => exact .publish hlast (.none _)
  | publish hpublish _ ih => exact .publish hpublish (ih hlast)

namespace Bus

open Reply (IsRoutable IsConfirmable IsServable)

variable {σ : Type} {bus : Bus σ} {fields : Entries Json}

theorem publish_of_isRoutable (hbus : ∀ l ∈ bus, l.Returns) (h : IsRoutable fields) (s : σ) :
    ∃ answered s', bus.publish (.object fields) s = (.ok answered, s') := by
  obtain ⟨s', hpublish, -⟩ := publish_of_isKey hbus (Reply.isRoutable_iff.mp h) s
  exact ⟨_, s', hpublish⟩

theorem publish_of_not_isRoutable (h : ¬IsRoutable fields) (s : σ) :
    bus.publish (.object fields) s = (.error .wrongKind, s) :=
  publish_of_not_isKey (Bool.eq_false_iff.mpr fun hkey => h (Reply.isRoutable_iff.mpr hkey)) s

/-- An action is published, then confirmed, and only then are the others looked at. -/
theorem publishAll_cons (confirmation : Text) (fields : Entries Json) (rest : List (Entries Json))
    (s : σ) :
    bus.publishAll confirmation (fields :: rest) s = match bus.publish (.object fields) s with
      | (.ok _, s') => match Reply.confirm fields with
        | .ok confirmation => bus.publishAll confirmation rest s'
        | .error fault => (.error fault, s')
      | (.error fault, s') => (.error fault, s') := by
  rw [publishAll, Action.bind_apply, Action.discard_apply]
  rcases bus.publish (.object fields) s with ⟨_ | _, s'⟩
  · rfl
  · dsimp only [Except.map]
    cases Reply.confirm fields <;> rfl

/-- Actions that can be published and confirmed are done with before all others. -/
theorem publishAll_append (hbus : ∀ l ∈ bus, l.Returns) {before : List (Entries Json)}
    (h : ∀ fields ∈ before, IsServable fields) : ∀ (confirmation : Text) (s : σ),
      ∃ t s', Publishes bus before s s' ∧ ∀ rest,
        bus.publishAll confirmation (before ++ rest) s = bus.publishAll t rest s' := by
  induction before with
  | nil => exact fun confirmation s => ⟨confirmation, s, .none s, fun _ => rfl⟩
  | cons fields before ih =>
    intro confirmation s
    obtain ⟨⟨hroutable, hconfirmable⟩, hbefore⟩ := List.forall_mem_cons.mp h
    obtain ⟨answered, s₁, hpublish⟩ := publish_of_isRoutable hbus hroutable s
    obtain ⟨t₁, hconfirm⟩ := Reply.exists_confirm hconfirmable
    obtain ⟨t, s', hpublishes, hrest⟩ := ih hbefore t₁ s₁
    refine ⟨t, s', .publish hpublish hpublishes, fun rest => ?_⟩
    rw [List.cons_append, publishAll_cons, hpublish, hconfirm]
    exact hrest rest

/-! ## The result -/

theorem obey_apply (reply : Text) (s : σ) :
    bus.obey reply s = match bus.publishAll [] (Reply.ofText reply).actions s with
      | (.ok confirmation, s') => (.ok (if (Reply.ofText reply).prose ≠ [] then
          (Reply.ofText reply).prose else if confirmation ≠ [] then confirmation else reply.trim),
          s')
      | (.error fault, s') => (.error fault, s') := by
  rw [obey, Action.bind_apply]
  rcases bus.publishAll [] (Reply.ofText reply).actions s with ⟨_ | _, _⟩ <;> rfl

/-- A reply obeyed on a bus of which all handlers return normally. If each of its actions can be
published and confirmed, all are published, each once and in order, and there is a text to show. If
one cannot, the first such ends the call, with all before it published and none behind it: it is
not published itself if its route cannot be looked up, and published in vain if it can, since it
then cannot be confirmed. -/
theorem obey_cases (hbus : ∀ l ∈ bus, l.Returns) (reply : Text) (s : σ) :
    ((∀ fields ∈ (Reply.ofText reply).actions, IsServable fields) →
      ∃ text s', bus.obey reply s = (.ok text, s') ∧
        Publishes bus (Reply.ofText reply).actions s s') ∧
    ∀ before fields after, (Reply.ofText reply).actions = before ++ fields :: after →
      (∀ earlier ∈ before, IsServable earlier) →
      (¬IsRoutable fields → ∃ s', bus.obey reply s = (.error .wrongKind, s') ∧
        Publishes bus before s s') ∧
      (IsRoutable fields → ¬IsConfirmable fields →
        ∃ s', bus.obey reply s = (.error .noSuchMember, s') ∧
          Publishes bus (before ++ [fields]) s s') := by
  refine ⟨fun hall => ?_, fun before fields after hactions hbefore => ?_⟩
  · obtain ⟨t, s', hpublishes, hrest⟩ := publishAll_append hbus hall [] s
    have hdone := hrest []
    rw [List.append_nil] at hdone
    rw [obey_apply, hdone]
    exact ⟨_, s', rfl, hpublishes⟩
  · obtain ⟨t, s', hpublishes, hrest⟩ := publishAll_append hbus hbefore [] s
    rw [obey_apply, hactions, hrest]
    constructor
    · intro hroutable
      rw [publishAll_cons, publish_of_not_isRoutable hroutable]
      exact ⟨s', rfl, hpublishes⟩
    · intro hroutable hconfirmable
      obtain ⟨answered, s'', hpublish⟩ := publish_of_isRoutable hbus hroutable s'
      rw [publishAll_cons, hpublish, Reply.confirm_of_not_isConfirmable hconfirmable]
      exact ⟨s'', rfl, hpublishes.concat hpublish⟩

/-- Neither an app that is no text nor a payload that is a list keeps an action from being published
and confirmed, and what is no object in the block is passed over. -/
theorem obey_cases_of_odd_fields :
    let bus := [Subscription.noting 1 none "openApp"]
    let plain : Entries Json := [("action", .text "openApp")]
    let odd : Entries Json :=
      [("action", .null), ("appId", .boolean true), ("payload", .array [.null])]
    let items := [Json.object plain, .null, .object odd]
    let reply := [] ++ openingFence ++ (Json.array items).write ++ closingFence ++ []
    (∀ l ∈ bus, l.Returns) ∧ (∀ fields ∈ [plain, odd], IsServable fields) ∧
      ∃ text s', obey bus reply [] = (.ok text, s') ∧ Publishes bus [plain, odd] [] s' ∧
        text = "Got it. Performing the requested action in the app." ∧
        s' = [(1, (Json.object plain).write)] := by
  intro bus plain odd items reply
  have hbus : ∀ l ∈ bus, l.Returns := by
    simp only [bus, List.forall_mem_cons]
    exact ⟨Subscription.returns_noting _ _ _, nofun⟩
  have hservable : ∀ fields ∈ [plain, odd], IsServable fields := by
    simp only [List.forall_mem_cons]
    exact ⟨⟨⟨rfl, nofun⟩, fun _ _ _ _ h => nomatch h⟩,
      ⟨⟨rfl, fun _ => rfl⟩, fun _ _ h => nomatch h⟩, nofun⟩
  have hplain : (Json.object plain).IsReadable := by
    refine .object (by decide) (by decide) ?_
    simp only [plain, List.forall_mem_cons]
    exact ⟨.text (by decide), nofun⟩
  have hodd : (Json.object odd).IsReadable := by
    refine .object (by decide) (by decide) ?_
    simp only [odd, List.forall_mem_cons]
    exact ⟨.null, .boolean true, .array (by simp [Json.IsReadable.null]), nofun⟩
  have hread : Json.read (Json.array items).write = .ok (.array items) := by
    refine Json.read_write (.array ?_)
    simp only [items, List.forall_mem_cons]
    exact ⟨hplain, .null, hodd, nofun⟩
  have hactions : (Reply.ofText reply).actions = [plain, odd] := by
    rw [Reply.ofText_append (by decide) (Reply.not_closingFence_infix_write _),
      Reply.actionsOf_array hread]
    rfl
  obtain ⟨text, s', hobey, hpublishes⟩ := (obey_cases hbus reply []).1 (hactions ▸ hservable)
  have hmet : (obey bus reply []).1.toOption =
        some "Got it. Performing the requested action in the app." ∧
      (obey bus reply []).2 = [(1, (Json.object plain).write)] := by decide +kernel
  rw [hobey] at hmet
  exact ⟨hbus, hservable, text, s', hobey, hactions ▸ hpublishes, Option.some.inj hmet.1, hmet.2⟩

/-- An action named by a list ends the call, and the one behind it is not published although it is
served. A payload that is a list ends it too where a word of it is asked for, and then only after
the action has been published. -/
theorem obey_fails_of_list :
    let bus := [Subscription.noting 1 none "openApp", Subscription.noting 2 none "restart"]
    let unnamed := Text.ofString ("```json\n[\x7b\"action\": []\x7d, " ++
      "\x7b\"action\": \"openApp\"\x7d]\n```")
    let unconfirmed := Text.ofString ("```json\n[\x7b\"action\": \"openApp\"\x7d, " ++
      "\x7b\"action\": \"createFile\", \"payload\": [1]\x7d, " ++
      "\x7b\"action\": \"restart\"\x7d]\n```")
    (∀ l ∈ bus, l.Returns) ∧
      ((Reply.ofText unnamed).actions.map fun fields => (Json.object fields).write) =
        ["\x7b\"action\": []\x7d", "\x7b\"action\": \"openApp\"\x7d"] ∧
      (obey bus unnamed []).1.toOption = none ∧ (obey bus unnamed []).2 = [] ∧
      (Reply.ofText unconfirmed).actions.length = 3 ∧
      (obey bus unconfirmed []).1.toOption = none ∧
      (obey bus unconfirmed []).2 = [(1, Text.ofString "\x7b\"action\": \"openApp\"\x7d")] := by
  intro bus unnamed unconfirmed
  have hbus : ∀ l ∈ bus, l.Returns := by
    simp only [bus, List.forall_mem_cons]
    exact ⟨Subscription.returns_noting _ _ _, Subscription.returns_noting _ _ _, nofun⟩
  refine ⟨hbus, ?_, ?_, ?_, ?_, ?_, ?_⟩ <;> decide +kernel

end Bus

end VirtualShell
