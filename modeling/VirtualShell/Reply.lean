import VirtualShell.Bus
import VirtualShell.Json.Reader
/-
  Replies of the assistant.

  A reply is prose with, at most once, a fenced block of JSON in it that holds one action
  or a list of them. The block is taken out of the prose. Obeying a reply publishes its
  actions; what is shown is the prose, or if there is none what was done last.
-/

namespace VirtualShell

/-- What a block of actions starts with. -/
def openingFence : Text := "```json\n"

/-- What a block of actions ends with. -/
def closingFence : Text := "\n```"

/-- A reply taken apart: its prose, and the fields of each of its actions. -/
structure Reply where
  prose : Text
  actions : List (Entries Json)

namespace Reply

/-- The text before, in and after the first block. -/
def cutBlock (reply : Text) : Option (Text × Text × Text) := do
  let (before, rest) ← Text.cutText openingFence reply
  let (block, after) ← Text.cutText closingFence rest
  return (before, block, after)

/-- The fields of an object. -/
def fields? : Json → Option (Entries Json)
  | .object fields => some fields
  | _ => none

/-- The actions in a block. What is no JSON holds none, and what is no object is no
action. -/
def actionsOf (block : Text) : List (Entries Json) :=
  match Json.read block with
  | .error _ => []
  | .ok (.array items) => items.filterMap fields?
  | .ok v => [v].filterMap fields?

/-- A reply taken apart. -/
def ofText (reply : Text) : Reply :=
  match cutBlock reply with
  | none => ⟨reply.trim, []⟩
  | some (before, block, after) => ⟨Text.trim (before ++ after), actionsOf block⟩

/-- A field of a payload as it stands in a sentence. A payload that is no object has no
fields to ask for. -/
def payloadField (key : Text) : Json → Except Fault Text
  | .object fields => .ok (Json.fieldOr .null key fields).shown
  | _ => .error .noSuchMember

/-- The sentence that confirms an action for an app. -/
def confirmForApp (action payload : Json) : Except Fault Text :=
  let named (name : Text) : Bool := Route.namesAction name action
  if named "executeTerminalCommand" then do
    return "Executing \"" ++ (← payloadField "command" payload) ++ "\" in the terminal."
  else if named "createFile" then do
    return "Okay, creating the file \"" ++ (← payloadField "fileName" payload) ++ "\" for you."
  else if named "createNote" then do
    return "I've created a new note with the title \"" ++ (← payloadField "title" payload) ++ "\"."
  else .ok "Got it. Performing the requested action in the app."

/-- The sentence that confirms an action for the system. -/
def confirmForSystem (action appId : Json) : Text :=
  let named (name : Text) : Bool := Route.namesAction name action
  if named "openApp" then "Opening " ++ appId.shown ++ "."
  else if named "restart" then "Restarting now."
  else if named "factoryReset" then "Performing a factory reset as requested."
  else if named "corruptFileSystem" then
    "As you wish. Initiating file system corruption sequence. " ++
      "This is irreversible without a factory reset."
  else "Action completed successfully."

/-- The sentence that confirms an action. A payload that is null is none here. -/
def confirm (fields : Entries Json) : Except Fault Text :=
  let action := Json.fieldOr .null "action" fields
  match Json.fieldOr .null "payload" fields with
  | .null => .ok (confirmForSystem action (Json.fieldOr .null "appId" fields))
  | payload => confirmForApp action payload

end Reply

namespace Bus

variable {σ : Type}

/-- Actions published one after another, and the confirmation of the last of them;
without any it is the one before. -/
def publishAll (bus : Bus σ) (confirmation : Text) : List (Entries Json) → Action σ Text
  | [] => return confirmation
  | fields :: rest => do
    discard <| bus.publish (.object fields)
    match Reply.confirm fields with
    | .ok confirmation => publishAll bus confirmation rest
    | .error fault => throw fault

/-- The actions of a reply carried out, and the text to show for it. -/
def obey (bus : Bus σ) (reply : Text) : Action σ Text := do
  let parts := Reply.ofText reply
  let confirmation ← bus.publishAll [] parts.actions
  return if parts.prose ≠ [] then parts.prose
    else if confirmation ≠ [] then confirmation
    else reply.trim

end Bus

end VirtualShell
