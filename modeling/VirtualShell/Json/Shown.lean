import VirtualShell.Json.Basic
import VirtualShell.Text.Split
import VirtualShell.Text.Quoted
/-
  JSON values as they appear inside messages: text stands bare on its own and in
  quotes inside a list or an object, and the three constants and the kinds of
  values go by the names that the messages use for them.
-/

namespace VirtualShell.Json

mutual

/-- A value as it stands inside a list, an object or a quotation. -/
def quoted : Json → Text
  | null => "None"
  | boolean true => "True"
  | boolean false => "False"
  | number n => n.shown
  | text t => t.quoted
  | array items => "[" ++ Text.join ", " (quotedItems items) ++ "]"
  | object fields => "\x7b" ++ Text.join ", " (quotedFields fields) ++ "\x7d"

/-- Each item as it stands inside a list. -/
def quotedItems : List Json → List Text
  | [] => []
  | v :: rest => quoted v :: quotedItems rest

/-- Each field as it stands inside an object. -/
def quotedFields : List (Text × Json) → List Text
  | [] => []
  | (key, v) :: rest => (key.quoted ++ ": " ++ quoted v) :: quotedFields rest

end

/-- A value as it stands in a sentence. -/
def shown : Json → Text
  | text t => t
  | v => v.quoted

/-- The name of the kind of a value. -/
def kindName : Json → Text
  | null => "NoneType"
  | boolean _ => "bool"
  | number (.integer _) => "int"
  | number (.real _) => "float"
  | text _ => "str"
  | array _ => "list"
  | object _ => "dict"

end VirtualShell.Json
