import VirtualShell.Text.Basic
/-
  UTF-8. Writing fails only on surrogates; reading is strict: overlong forms,
  encoded surrogates, numbers past the last code point, stray continuation bytes
  and a form cut short are all refused.
-/

namespace VirtualShell

/-- The number of bytes a code point takes, if it has an encoding. -/
def CodePoint.utf8Width? (c : CodePoint) : Option Nat :=
  if c.isSurrogate then none
  else if c.val < 0x80 then some 1
  else if c.val < 0x800 then some 2
  else if c.val < 0x10000 then some 3
  else some 4

/-- The bytes of a code point, if it has an encoding. -/
def CodePoint.utf8? (c : CodePoint) : Option (List UInt8) :=
  let low (n : Nat) : UInt8 := UInt8.ofNat (0x80 + n % 0x40)
  if c.isSurrogate then none
  else if c.val < 0x80 then some [UInt8.ofNat c.val]
  else if c.val < 0x800 then some [UInt8.ofNat (0xC0 + c.val / 0x40), low c.val]
  else if c.val < 0x10000 then
    some [UInt8.ofNat (0xE0 + c.val / 0x1000), low (c.val / 0x40), low c.val]
  else
    some [UInt8.ofNat (0xF0 + c.val / 0x40000), low (c.val / 0x1000), low (c.val / 0x40),
      low c.val]

namespace Text

/-- The length of the text in bytes; none if it holds a surrogate. -/
def utf8Length? : Text → Option Nat
  | [] => some 0
  | c :: rest => do return (← c.utf8Width?) + (← utf8Length? rest)

/-- The bytes of the text; none if it holds a surrogate. -/
def utf8? : Text → Option (List UInt8)
  | [] => some []
  | c :: rest => do return (← c.utf8?) ++ (← utf8? rest)

/-- The number that a continuation byte adds. -/
def continuation? (b : UInt8) : Option Nat :=
  if 0x80 ≤ b.toNat && b.toNat < 0xC0 then some (b.toNat - 0x80) else none

/-- A scalar value assembled from a form, refused if a shorter form would do. -/
def scalar? (least n : Nat) : Option CodePoint :=
  if n < least then none
  else if h : n < 0x110000 then
    let c : CodePoint := ⟨n, h⟩
    if c.isSurrogate then none else some c
  else none

/-- The text that the bytes encode; none unless every byte belongs to a proper form. -/
def ofUtf8? : List UInt8 → Option Text
  | [] => some []
  | a :: rest =>
    if a.toNat < 0x80 then do
      return CodePoint.ofNat a.toNat :: (← ofUtf8? rest)
    else if 0xC0 ≤ a.toNat && a.toNat < 0xE0 then
      match rest with
      | b :: rest => do
        let c ← scalar? 0x80 ((a.toNat - 0xC0) * 0x40 + (← continuation? b))
        return c :: (← ofUtf8? rest)
      | _ => none
    else if 0xE0 ≤ a.toNat && a.toNat < 0xF0 then
      match rest with
      | b :: c :: rest => do
        let n := (a.toNat - 0xE0) * 0x1000 + (← continuation? b) * 0x40 + (← continuation? c)
        return (← scalar? 0x800 n) :: (← ofUtf8? rest)
      | _ => none
    else if 0xF0 ≤ a.toNat && a.toNat < 0xF8 then
      match rest with
      | b :: c :: d :: rest => do
        let n := (a.toNat - 0xF0) * 0x40000 + (← continuation? b) * 0x1000
          + (← continuation? c) * 0x40 + (← continuation? d)
        return (← scalar? 0x10000 n) :: (← ofUtf8? rest)
      | _ => none
    else none

/-- Line endings as line feeds, given whether a carriage return came just before. -/
def lineFeedsAfter : Bool → Text → Text
  | _, [] => []
  | afterReturn, c :: rest =>
    if c = '\r' then '\n' :: lineFeedsAfter true rest
    else if afterReturn && c == '\n' then lineFeedsAfter false rest
    else c :: lineFeedsAfter false rest

/-- Every line ending, be it a carriage return, a line feed or both, as one line feed. -/
def withLineFeeds (t : Text) : Text := lineFeedsAfter false t

end Text

end VirtualShell
