import VirtualShell.Entries
import VirtualShell.Decimal.Written
/-
  JSON values.

  Numbers keep apart what was written as an integer, of any size, and what was
  written with a point or an exponent. The fields of an object have an order.
-/

namespace VirtualShell

/-- A number: an exact integer, or a floating-point number. -/
inductive Number where
  | integer (n : Int)
  | real (x : Float)
  deriving DecidableEq

/-- Greater than zero. -/
def Number.isPositive : Number → Bool
  | .integer n => 0 < n
  | .real x => 0.0 < x

/-- The nearest floating-point number; none if an integer is too large to have one. -/
def Number.toFloat? : Number → Option Float
  | .integer n => Binary64.ofInt? n
  | .real x => some x

/-- A number as it stands inside a message. -/
def Number.shown : Number → Text
  | .integer n => Text.ofInt n
  | .real x => shownFloat x

/-- A JSON value. -/
inductive Json where
  | null
  | boolean (b : Bool)
  | number (n : Number)
  | text (t : Text)
  | array (items : List Json)
  | object (fields : List (Text × Json))

namespace Json

/-- Whether the value counts as set: everything but null, false, zero and what is empty. -/
def isSet : Json → Bool
  | null => false
  | boolean b => b
  | number (.integer n) => n != 0
  | number (.real x) => !(x == 0.0)
  | text t => !t.isEmpty
  | array items => !items.isEmpty
  | object fields => !fields.isEmpty

/-- The field of an object; null if the object has no such field. -/
def fieldOr (fallback : Json) (key : Text) (fields : Entries Json) : Json :=
  (fields.get? key).getD fallback

end Json

end VirtualShell
