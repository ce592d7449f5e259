import VirtualShell.Json.Basic
import VirtualShell.Decimal.Reading
import VirtualShell.Text.Number
/-
  Reading JSON.

  The reader works on what is left of the text and hands on the rest. It takes
  standard JSON and the names `NaN`, `Infinity` and `-Infinity`; an escape may name a
  lone surrogate, and two escapes that form a pair give one code point. A repeated key
  keeps its first place and its last value.
-/

namespace VirtualShell

/-- Why a text is not read as JSON. -/
inductive JsonFault where
  /-- The text does not follow the grammar. -/
  | malformed
  /-- An integer has more than 4300 digits. -/
  | tooManyDigits
  deriving DecidableEq, Repr

namespace Json

/-- Blank space between tokens: space, tab, line feed, carriage return. -/
def isSpace (c : CodePoint) : Bool := c.val == 0x20 || c.val == 0x9 || c.val == 0xa || c.val == 0xd

/-- The text without the blank space at its start. -/
def skipSpace (t : Text) : Text := t.dropWhile isSpace

/-- The unit that four hexadecimal digits spell, and the rest. -/
def readUnit : Text → Option (Nat × Text)
  | a :: b :: c :: d :: rest => do
    let n := (← a.hexDigit?) * 0x1000 + (← b.hexDigit?) * 0x100 + (← c.hexDigit?) * 0x10
      + (← d.hexDigit?)
    return (n, rest)
  | _ => none

/-- The second half of a pair, if the text starts with an escape that is one. -/
def readLowHalf : Text → Option (Nat × Text)
  | a :: b :: rest =>
    if a = '\\' && b = 'u' then
      match readUnit rest with
      | some (n, rest) => if 0xDC00 ≤ n && n ≤ 0xDFFF then some (n, rest) else none
      | none => none
    else none
  | _ => none

/-- What a one-letter escape stands for. -/
def shortEscape? (c : CodePoint) : Option CodePoint :=
  if c = '"' || c = '\\' || c = '/' then some c
  else if c = 'b' then some (CodePoint.ofNat 0x8)
  else if c = 'f' then some (CodePoint.ofNat 0xc)
  else if c = 'n' then some '\n'
  else if c = 'r' then some '\r'
  else if c = 't' then some '\t'
  else none

/-- The code point that an escape stands for, given what follows the backslash. -/
def readEscape : Text → Option (CodePoint × Text)
  | [] => none
  | c :: rest =>
    if c = 'u' then
      match readUnit rest with
      | none => none
      | some (n, rest) =>
        if 0xD800 ≤ n && n ≤ 0xDBFF then
          match readLowHalf rest with
          | some (low, rest) =>
            some (CodePoint.ofNat (0x10000 + (n - 0xD800) * 0x400 + (low - 0xDC00)), rest)
          | none => some (CodePoint.ofNat n, rest)
        else some (CodePoint.ofNat n, rest)
    else (shortEscape? c).map fun d => (d, rest)

/-- The rest of a string whose opening quote has been read. The number bounds the
code points that the string may have. -/
def readString : Nat → Text → Except JsonFault (Text × Text)
  | 0, _ => .error .malformed
  | _, [] => .error .malformed
  | n + 1, c :: rest =>
    if c = '"' then .ok ([], rest)
    else if c.val < 0x20 then .error .malformed
    else if c = '\\' then
      match readEscape rest with
      | none => .error .malformed
      | some (d, rest) => do
        let (t, rest) ← readString n rest
        return (d :: t, rest)
    else do
      let (t, rest) ← readString n rest
      return (c :: t, rest)

/-- A number, its sign already read. -/
def readUnsignedNumber (negative : Bool) (t : Text) : Except JsonFault (Json × Text) :=
  let (run, afterRun) := takeDigits t
  let (whole, afterWhole) := match run with
    | 0 :: _ => ([0], t.drop 1)
    | _ => (run, afterRun)
  let (fraction, afterFraction) := match takeFraction afterWhole with
    | ([], _) => ([], afterWhole)
    | found => found
  let (exponent, rest) := takeExponent afterFraction
  if whole = [] then .error .malformed
  else if fraction = [] && exponent = none then
    if whole.length > Text.digitLimit then .error .tooManyDigits
    else
      let n := Text.natOfDigits whole
      .ok (.number (.integer (if negative then -(n : Int) else n)), rest)
  else
    .ok (.number (.real
      ((Decimal.ofDigits whole fraction (exponent.getD 0)).toFloat negative)), rest)

/-- What follows a word that the text must start with. -/
def expectWord (word : Text) (v : Json) (t : Text) : Except JsonFault (Json × Text) :=
  if word.isPrefixOf t then .ok (v, t.drop word.length) else .error .malformed

/-- A value that is no string, list or object. -/
def readAtom (t : Text) : Except JsonFault (Json × Text) :=
  match t with
  | [] => .error .malformed
  | c :: rest =>
    if c = 'n' then expectWord "null" .null t
    else if c = 't' then expectWord "true" (.boolean true) t
    else if c = 'f' then expectWord "false" (.boolean false) t
    else if c = 'N' then expectWord "NaN" (.number (.real Binary64.notANumber)) t
    else if c = 'I' then expectWord "Infinity" (.number (.real Binary64.infinity)) t
    else if c = '-' then
      match rest with
      | d :: _ =>
        if d = 'I' then
          expectWord "Infinity" (.number (.real (Binary64.ofBits true Binary64.infinityBits))) rest
        else readUnsignedNumber true rest
      | [] => .error .malformed
    else readUnsignedNumber false t

mutual

/-- A value, and the rest of the text. The number bounds how many calls may nest and how
long a string may be. -/
def readValue : Nat → Text → Except JsonFault (Json × Text)
  | 0, _ => .error .malformed
  | _, [] => .error .malformed
  | n + 1, c :: rest =>
    if c = '"' then do
      let (t, rest) ← readString n rest
      return (.text t, rest)
    else if c = '[' then
      match skipSpace rest with
      | d :: more =>
        if d = ']' then .ok (.array [], more)
        else do
          let (items, rest) ← readItems n (d :: more)
          return (.array items, rest)
      | [] => .error .malformed
    else if c = '{' then
      match skipSpace rest with
      | d :: more =>
        if d = '}' then .ok (.object [], more)
        else do
          let (pairs, rest) ← readPairs n (d :: more)
          return (.object (Entries.ofPairs pairs), rest)
      | [] => .error .malformed
    else readAtom (c :: rest)

/-- The items of a list from a first one on, up to the closing bracket. -/
def readItems : Nat → Text → Except JsonFault (List Json × Text)
  | 0, _ => .error .malformed
  | n + 1, t => do
    let (v, rest) ← readValue n t
    match skipSpace rest with
    | c :: rest =>
      if c = ']' then return ([v], rest)
      else if c = ',' then
        let (vs, rest) ← readItems n (skipSpace rest)
        return (v :: vs, rest)
      else .error .malformed
    | [] => .error .malformed

/-- The fields of an object from a first one on, up to the closing brace. -/
def readPairs : Nat → Text → Except JsonFault (List (Text × Json) × Text)
  | 0, _ => .error .malformed
  | _, [] => .error .malformed
  | n + 1, c :: rest =>
    if c = '"' then do
      let (key, rest) ← readString n rest
      match skipSpace rest with
      | c :: rest =>
        if c = ':' then
          let (v, rest) ← readValue n (skipSpace rest)
          match skipSpace rest with
          | c :: rest =>
            if c = '}' then return ([(key, v)], rest)
            else if c = ',' then
              let (pairs, rest) ← readPairs n (skipSpace rest)
              return ((key, v) :: pairs, rest)
            else .error .malformed
          | [] => .error .malformed
        else .error .malformed
      | [] => .error .malformed
    else .error .malformed

end

/-- The one value that a text holds. A byte order mark at the start is not space. -/
def read (t : Text) : Except JsonFault Json :=
  match readValue (2 * t.length + 2) (skipSpace t) with
  | .error fault => .error fault
  | .ok (v, rest) => if skipSpace rest = [] then .ok v else .error .malformed

end Json

end VirtualShell
