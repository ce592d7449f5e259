import VirtualShell.Text.Basic
/-
  Colour in output, and output without it.

  A control sequence is an escape character and an opening bracket, then any number
  of digits and semicolons, then one ASCII letter. Output that is read as data, by the
  next stage of a pipeline or by a file, has all of them taken out.
-/

namespace VirtualShell.Markup

/-- The character that every control sequence starts with. -/
def escape : CodePoint := '\x1b'

/-- Ends a colour. -/
def reset : Text := "\x1b[0m"

/-- Starts red text. -/
def red : Text := "\x1b[31m"

/-- Starts green text. -/
def green : Text := "\x1b[32m"

/-- Starts blue text. -/
def blue : Text := "\x1b[34m"

/-- Starts black text on yellow. -/
def marked : Text := "\x1b[30;43m"

/-- Empties the screen and puts the cursor in its corner. -/
def clearScreen : Text := "\x1b[2J\x1b[H"

/-- Text in the colour of errors. -/
def error (t : Text) : Text := red ++ t ++ reset

/-- Text in the colour of directories. -/
def directory (t : Text) : Text := blue ++ t ++ reset

/-- Text in the colour of search hits. -/
def highlight (t : Text) : Text := marked ++ t ++ reset

/-- A digit or a semicolon. -/
def isParameter (c : CodePoint) : Bool := c.isAsciiDigit || c = ';'

/-- What comes after the parameters and the final letter of a control sequence, if
that is how the text starts. -/
def afterParameters : Text → Option Text
  | [] => none
  | c :: rest =>
    if isParameter c then afterParameters rest
    else if c.isAsciiLetter then some rest
    else none

/-- What comes after a control sequence, if the text starts with one. -/
def afterSequence : Text → Option Text
  | c :: d :: rest => if c = escape && d = '[' then afterParameters rest else none
  | _ => none

theorem length_afterParameters {t rest : Text} (h : afterParameters t = some rest) :
    rest.length < t.length := by
  induction t with
  | nil => simp [afterParameters] at h
  | cons c t ih =>
    simp only [afterParameters] at h
    split at h
    · have := ih h
      simp only [List.length_cons]
      omega
    · split at h
      · cases h
        simp
      · cases h

/-- A control sequence has a length. -/
theorem length_afterSequence {t rest : Text} (h : afterSequence t = some rest) :
    rest.length < t.length := by
  match t, h with
  | c :: d :: t, h =>
    simp only [afterSequence] at h
    split at h
    · have := length_afterParameters h
      simp only [List.length_cons]
      omega
    · cases h

/-- The text without its control sequences, found from left to right. -/
def strip (t : Text) : Text :=
  match t with
  | [] => []
  | c :: rest =>
    match h : afterSequence (c :: rest) with
    | some after =>
      have := length_afterSequence h
      strip after
    | none => c :: strip rest
termination_by t.length
decreasing_by
  · assumption
  · exact Nat.lt_succ_self _

end VirtualShell.Markup
