import VirtualShell.Text.Printable
/-
  Text in quotes, as it appears inside messages.

  The quotes are single, or double when the text has a single quote and no double
  one. The quote, the backslash and whatever does not show are escaped; the rest,
  of any script, stands for itself.
-/

namespace VirtualShell

/-- The code point as it stands between the given quotes. -/
def CodePoint.quoted (quote : CodePoint) (c : CodePoint) : Text :=
  if c = quote || c = '\\' then ['\\', c]
  else if c = '\t' then "\\t"
  else if c = '\n' then "\\n"
  else if c = '\r' then "\\r"
  else if c.isPrintable then [c]
  else if c.val < 0x100 then "\\x" ++ Text.hex 2 c.val
  else if c.val < 0x10000 then "\\u" ++ Text.hex 4 c.val
  else "\\U" ++ Text.hex 8 c.val

namespace Text

/-- The quote that a text is put in. -/
def quoteFor (t : Text) : CodePoint :=
  if t.any (· == '\'') && !t.any (· == '"') then '"' else '\''

/-- The text in quotes. -/
def quoted (t : Text) : Text :=
  let quote := quoteFor t
  quote :: t.flatMap (CodePoint.quoted quote) ++ [quote]

end Text

end VirtualShell
