import VirtualShell.Session.Picked
import VirtualShell.Text.Digit
/-
  Templates for the prompt.

  A template is text with fields in braces; a brace that stands for itself is doubled.
  A field names a value, may pick something out of it, may ask for it in quotes,
  and may say how to lay it out: what to fill with, which side to align to, how wide at
  least, how long at most. The layout may itself hold fields, once over. Fields are filled
  from left to right, and the first thing wrong with any of them is the fault.
-/

namespace VirtualShell.Template

/-- An opening brace. -/
def openBrace : CodePoint := '\x7b'

/-- A closing brace. -/
def closeBrace : CodePoint := '\x7d'

/-- A field as it stands between its braces. -/
structure Field where
  /-- The name of the value, and what is picked out of it. -/
  source : Text
  conversion : Option CodePoint
  layout : Text

/-- A template that is not put together as it has to be. -/
def malformed {α : Type} (why : String) : Except Fault α := .error (.unsuitable why)

/-! Cutting a template into literal text and fields. -/

/-- Literal text up to the next brace: the text, whether a field follows, and the rest.
A doubled brace ends the text and belongs to it once. -/
def takeLiteral : Text → Except Fault (Text × Bool × Text)
  | [] => .ok ([], false, [])
  | c :: rest =>
    if c = openBrace || c = closeBrace then
      match rest with
      | [] => malformed "Single brace encountered in format string"
      | d :: after =>
        if d = c then .ok ([c], false, after)
        else if c = openBrace then .ok ([], true, rest)
        else malformed "Single brace encountered in format string"
    else do
      let (t, follows, rest) ← takeLiteral rest
      return (c :: t, follows, rest)

/-- The source of a field, the mark that ends it, and the rest. Inside brackets nothing
is a mark. -/
def takeSource : Bool → Text → Except Fault (Text × CodePoint × Text)
  | _, [] => malformed "expected a closing brace before end of string"
  | true, c :: rest => do
    let (t, mark, rest) ← takeSource (c ≠ ']') rest
    return (c :: t, mark, rest)
  | false, c :: rest =>
    if c = openBrace then malformed "unexpected opening brace in field name"
    else if c = closeBrace || c = ':' || c = '!' then .ok ([], c, rest)
    else do
      let (t, mark, rest) ← takeSource (c = '[') rest
      return (c :: t, mark, rest)

/-- The layout of a field up to its closing brace, and the rest; the number counts the
braces that are open inside it. -/
def takeLayout : Nat → Text → Except Fault (Text × Text)
  | _, [] => malformed "unmatched opening brace in format spec"
  | depth, c :: rest =>
    if c = closeBrace && depth = 0 then .ok ([], rest)
    else do
      let depth := if c = openBrace then depth + 1 else if c = closeBrace then depth - 1 else depth
      let (t, rest) ← takeLayout depth rest
      return (c :: t, rest)

/-- A field after its opening brace, and the rest. -/
def takeField (t : Text) : Except Fault (Field × Text) := do
  let (source, mark, rest) ← takeSource false t
  if mark = closeBrace then return (⟨source, none, []⟩, rest)
  if mark = ':' then
    let (layout, rest) ← takeLayout 0 rest
    return (⟨source, none, layout⟩, rest)
  match rest with
  | [] => malformed "end of string while looking for conversion specifier"
  | conversion :: rest =>
    match rest with
    | [] => malformed "unmatched opening brace in format spec"
    | c :: rest =>
      if c = closeBrace then return (⟨source, some conversion, []⟩, rest)
      else if c = ':' then
        let (layout, rest) ← takeLayout 0 rest
        return (⟨source, some conversion, layout⟩, rest)
      else malformed "expected ':' after conversion specifier"

/-! The value of a field. -/

/-- The largest number that a template may mention. -/
def numberLimit : Nat := 9223372036854775807

/-- The number that a text spells, if it is nothing but decimal digits. -/
def number? (t : Text) : Except Fault (Option Nat) :=
  match t.mapM CodePoint.digit? with
  | none => .ok none
  | some [] => .ok none
  | some digits =>
    if numberLimit < Text.natOfDigits digits then
      malformed "Too many decimal digits in format string"
    else .ok (some (Text.natOfDigits digits))

/-- Whether a mark starts what is picked out of a value. -/
def isPick (c : CodePoint) : Bool := c = '.' || c = '['

/-- What is picked out of a value by names and numbers, one after the other. -/
def pick : Nat → Picked → Text → Except Fault Picked
  | 0, value, _ => .ok value
  | _, value, [] => .ok value
  | fuel + 1, value, c :: rest =>
    if c = '.' then
      let name := rest.takeWhile fun c => !isPick c
      if name = [] then malformed "Empty attribute in format string"
      else match value.member? name with
        | some found => pick fuel found (rest.drop name.length)
        | none => .error .noSuchMember
    else if c = '[' then
      match Text.cut ']' rest with
      | none => malformed "Missing ']' in format string"
      | some (inside, rest) => do
        let index ← number? inside
        if inside = [] then malformed "Empty attribute in format string"
        else match index with
          | none => .error .wrongKind
          | some i => pick fuel (← value.item i) rest
    else malformed "Only '.' or '[' may follow ']' in format field specifier"

/-- The value that a source leads to among those given. There are values under names
and none under numbers. -/
def valueOf (values : Entries Text) (source : Text) : Except Fault Picked := do
  let name := source.takeWhile fun c => !isPick c
  if name = [] || (← number? name).isSome then throw .noSuchPosition
  match values.get? name with
  | none => throw (.noSuchName name)
  | some value => pick source.length (.text value) (source.drop name.length)

/-- A character of a quotation with what is not ASCII escaped as well. -/
def asciiOnly (c : CodePoint) : Text :=
  if c.val < 0x80 then [c]
  else if c.val < 0x100 then "\\x" ++ Text.hex 2 c.val
  else if c.val < 0x10000 then "\\u" ++ Text.hex 4 c.val
  else "\\U" ++ Text.hex 8 c.val

/-- The value as the conversion asks for it. -/
def convert (value : Picked) : Option CodePoint → Except Fault Picked
  | none => .ok value
  | some c =>
    if c = 's' then .ok (.text value.shown)
    else if c = 'r' then .ok (.text value.quoted)
    else if c = 'a' then .ok (.text (value.quoted.flatMap asciiOnly))
    else malformed "Unknown conversion specifier"

/-! Laying out a value. -/

/-- How a value is laid out. -/
structure Layout where
  fill : CodePoint := ' '
  align : CodePoint := '<'
  width : Option Nat := none
  most : Option Nat := none

/-- One of the marks of alignment. -/
def isAlignment (c : CodePoint) : Bool := c = '<' || c = '>' || c = '^' || c = '='

/-- The fill and the alignment that a layout starts with, and the rest. -/
def takeAlignment : Text → Bool × Layout × Text
  | c :: d :: rest =>
    if isAlignment d then (true, { fill := c, align := d }, rest)
    else if isAlignment c then (false, { align := c }, d :: rest)
    else (false, {}, c :: d :: rest)
  | [c] => if isAlignment c then (false, { align := c }, []) else (false, {}, [c])
  | [] => (false, {}, [])

/-- A number at the start of a text, if there is one, and the rest. -/
def takeNumber (t : Text) : Except Fault (Option Nat × Text) := do
  let digits := t.takeWhile CodePoint.isDigit
  return (← number? digits, t.drop digits.length)

/-- The greatest length that a layout asks for after a point, and the rest. -/
def takeMost : Text → Except Fault (Option Nat × Text)
  | c :: rest =>
    if c = '.' then do
      let (most, rest) ← takeNumber rest
      if most.isNone then malformed "Format specifier missing precision" else return (most, rest)
    else .ok (none, c :: rest)
  | [] => .ok (none, [])

/-- A layout read from text. What is meant for numbers, a sign, a form, a mark between
thousands or a kind, is refused. -/
def Layout.ofText (t : Text) : Except Fault Layout := do
  let (filled, layout, rest) := takeAlignment t
  let (zero, rest) : Bool × Text := match filled, rest with
    | false, c :: more => if c = '0' then (true, more) else (false, rest)
    | _, _ => (false, rest)
  let (width, rest) ← takeNumber rest
  let (most, rest) ← takeMost rest
  let layout := { layout with
    fill := if zero then CodePoint.ofChar '0' else layout.fill, width := width, most := most }
  if rest ≠ [] && rest ≠ "s" then malformed "Invalid format specifier"
  else if layout.align.val == 0x3d then malformed "'=' alignment not allowed in string format specifier"
  else return layout

/-- The value laid out. -/
def Layout.apply (layout : Layout) (value : Text) : Text :=
  let value := match layout.most with
    | some most => value.take most
    | none => value
  let missing := (layout.width.getD 0) - value.length
  let left :=
    if layout.align.val == 0x3e then missing
    else if layout.align.val == 0x5e then missing / 2
    else 0
  List.replicate left layout.fill ++ value ++ List.replicate (missing - left) layout.fill

/-- The value laid out as a text says; an empty text says nothing. Only text has a
layout. -/
def layOut (layout : Text) (value : Picked) : Except Fault Text := do
  if layout = [] then return value.shown
  match value with
  | .text t => return (← Layout.ofText layout).apply t
  | _ => throw .wrongKind

/-! Filling a template in. -/

/-- The template filled in. The first number bounds how deep fields lie inside the
layout of others, the second how many pieces are left. -/
def fillPieces (values : Entries Text) : Nat → Nat → Text → Except Fault Text
  | 0, _, _ => malformed "Max string recursion exceeded"
  | _ + 1, 0, _ => .ok []
  | depth + 1, pieces + 1, t => do
    let (literal, follows, rest) ← takeLiteral t
    if follows then
      let (field, rest) ← takeField rest
      let value ← convert (← valueOf values field.source) field.conversion
      let layout ← if field.layout.contains openBrace then
          fillPieces values depth (field.layout.length + 1) field.layout
        else pure field.layout
      return literal ++ (← layOut layout value) ++ (← fillPieces values (depth + 1) pieces rest)
    else if rest = [] then return literal
    else return literal ++ (← fillPieces values (depth + 1) pieces rest)
termination_by depth pieces => (depth, pieces)

/-- The template filled in with the values given. -/
def fill (values : Entries Text) (template : Text) : Except Fault Text :=
  fillPieces values 2 (template.length + 1) template

end VirtualShell.Template
