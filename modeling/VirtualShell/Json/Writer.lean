import VirtualShell.Json.Basic
import VirtualShell.Text.Split
/-
  Writing JSON.

  One line, a space after each comma and colon, and nothing but the visible part of ASCII:
  all else is escaped, beyond the first plane as a pair of surrogates. The
  values that are not finite have the names `NaN`, `Infinity` and `-Infinity`.
-/

namespace VirtualShell

/-- One 16-bit unit as an escape. -/
def escapedUnit (n : Nat) : Text := "\\u" ++ Text.hex 4 n

/-- A code point as it stands inside a JSON string. -/
def CodePoint.jsonEscaped (c : CodePoint) : Text :=
  if c = '"' then "\\\""
  else if c = '\\' then "\\\\"
  else if c = '\n' then "\\n"
  else if c = '\r' then "\\r"
  else if c = '\t' then "\\t"
  else if c.val = 0x8 then "\\b"
  else if c.val = 0xc then "\\f"
  else if 0x20 ≤ c.val && c.val < 0x7f then [c]
  else if c.val < 0x10000 then escapedUnit c.val
  else
    escapedUnit (0xD800 + (c.val - 0x10000) / 0x400) ++ escapedUnit (0xDC00 + c.val % 0x400)

namespace Json

/-- A JSON string, quotes included. -/
def writeText (t : Text) : Text := "\"" ++ t.flatMap CodePoint.jsonEscaped ++ "\""

/-- A JSON number. -/
def writeNumber : Number → Text
  | .integer n => Text.ofInt n
  | .real x => writtenFloat ⟨"Infinity", "NaN"⟩ x

mutual

/-- A value as JSON text. -/
def write : Json → Text
  | null => "null"
  | boolean true => "true"
  | boolean false => "false"
  | number n => writeNumber n
  | text t => writeText t
  | array items => "[" ++ Text.join ", " (writeItems items) ++ "]"
  | object fields => "\x7b" ++ Text.join ", " (writeFields fields) ++ "\x7d"

/-- Each item as JSON text. -/
def writeItems : List Json → List Text
  | [] => []
  | v :: rest => write v :: writeItems rest

/-- Each field as JSON text. -/
def writeFields : List (Text × Json) → List Text
  | [] => []
  | (key, v) :: rest => (writeText key ++ ": " ++ write v) :: writeFields rest

end

end Json

end VirtualShell
