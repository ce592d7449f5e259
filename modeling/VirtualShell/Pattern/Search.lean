import VirtualShell.Pattern.Matching
/-
  Searching a line for a pattern.

  A line falls into hits and what lies between them. The hits are found from left to
  right and do not overlap; where one ends another may begin, but after an empty one the
  next has to take in something or begin further on. Whether a line matches, and the
  line with its hits marked, are both read off the same pieces.
-/

namespace VirtualShell

/-- A piece of a line. -/
inductive Piece where
  /-- Text that no hit takes in. -/
  | plain (t : Text)
  /-- Text that the pattern takes in. -/
  | hit (t : Text)
  deriving DecidableEq, Repr

/-- The text of a piece. -/
def Piece.text : Piece → Text
  | plain t => t
  | hit t => t

/-- Whether the piece is a hit. -/
def Piece.isHit : Piece → Bool
  | plain _ => false
  | hit _ => true

namespace Pattern

/-- The first hit at or after a place: where it is and how much it takes in. -/
def firstHit (pattern : Pattern) (text : Line) (moving : Bool) (i : Nat) : Option (Nat × Nat) :=
  match pattern.matchAt text moving i with
  | some n => some (i, n)
  | none => if i < text.size then firstHit pattern text false (i + 1) else none
  termination_by text.size - i

/-- The pieces of what is left of a line from a place on. The number bounds how many
hits there are. -/
def piecesFrom (pattern : Pattern) (text : Line) : Nat → Bool → Nat → Text → List Piece
  | 0, _, _, after => [.plain after]
  | fuel + 1, moving, i, after =>
    match pattern.firstHit text moving i with
    | none => [.plain after]
    | some (j, n) =>
      .plain (after.take (j - i)) :: .hit ((after.drop (j - i)).take n) ::
        piecesFrom pattern text fuel (n == 0) (j + n) ((after.drop (j - i)).drop n)

/-- The pieces of a line. -/
def pieces (pattern : Pattern) (text : Text) : List Piece :=
  pattern.piecesFrom text.toArray (2 * text.length + 2) false 0 text

end Pattern

/-- Whether there is a hit among the pieces, if only one that takes in nothing. -/
def anyHit (pieces : List Piece) : Bool := pieces.any Piece.isHit

/-- The pieces put together again, with every hit changed by `mark`. -/
def markHits (mark : Text → Text) (pieces : List Piece) : Text :=
  pieces.flatMap fun
    | .plain t => t
    | .hit t => mark t

end VirtualShell
