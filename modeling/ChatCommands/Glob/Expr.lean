import ChatCommands.Glob.CharClass

/-!
# Expressions of globs

The expression that a glob stands for is a list of pieces: a character of a class, a run of
characters of a class, or any number of whole segments. It is written as a regular expression, and
read from that text.
-/

namespace ChatCommands.Glob

/-- A piece of an expression. -/
inductive Piece
  | one (cls : CharClass)
  | run (cls : CharClass)
  /-- Any number of dots with a name after each. -/
  | segments
  /-- What is left of a name in a list of segments, and further segments. -/
  | segmentRest
  deriving DecidableEq, Repr

namespace Piece

/-- Whether a character may start the name of a module. -/
def isNameStart (c : Char) : Bool :=
  ('A' ≤ c && c ≤ 'Z') || ('a' ≤ c && c ≤ 'z') || c = '_'

/-- A bound for the pieces that a piece still turns into. -/
def weight : Piece → Nat
  | segmentRest => 2
  | _ => 1

/-- A bound for the pieces that several pieces still turn into. -/
def weights : List Piece → Nat
  | [] => 0
  | p :: ps => p.weight + weights ps

/-- Whether a whole text fits a list of pieces. -/
def fits (ps : List Piece) (cs : List Char) : Bool :=
  match ps, cs with
  | [], cs => cs.isEmpty
  | one _ :: _, [] => false
  | one cls :: ps, c :: cs => cls.mem c && fits ps cs
  | run _ :: ps, [] => fits ps []
  | run cls :: ps, c :: cs => fits ps (c :: cs) || (cls.mem c && fits (run cls :: ps) cs)
  | segments :: ps, '.' :: c :: cs =>
    fits ps ('.' :: c :: cs) || (isNameStart c && fits (segmentRest :: ps) cs)
  | segments :: ps, cs => fits ps cs
  | segmentRest :: ps, [] => fits (segments :: ps) []
  | segmentRest :: ps, c :: cs =>
    fits (segments :: ps) (c :: cs) || (Text.wordChars.mem c && fits (segmentRest :: ps) cs)
termination_by weights ps + cs.length
decreasing_by all_goals simp [weights, weight]; try omega

/-! ### Reading -/

/-- The text of any number of segments. -/
def segmentsText : List Char := "(?:\\.[A-Za-z_]\\w*)*".toList

/-- Reads the pieces of a text, or fails when a class in it is malformed. `fuel` bounds their
number. -/
def readPieces? [CharNames] : (fuel : Nat) → List Char → Option (List Piece)
  | _, [] => some []
  | 0, _ => none
  | fuel + 1, c :: cs =>
    if segmentsText.isPrefixOf (c :: cs) then
      (readPieces? fuel ((c :: cs).drop segmentsText.length)).map (segments :: ·)
    else
      match c, cs with
      | '[', cs => do
        let (cls, rest) ← CharClass.read? cs
        match rest with
        | '*' :: rest => (readPieces? fuel rest).map (run cls :: ·)
        | rest => (readPieces? fuel rest).map (one cls :: ·)
      | '\\', d :: cs =>
        if d.isAlphanum then none else (readPieces? fuel cs).map (one (.only d) :: ·)
      | c, cs =>
        if "()*\\".toList.contains c then none
        else (readPieces? fuel cs).map (one (.only c) :: ·)

/-- The pieces of a text. -/
def read? [CharNames] (cs : List Char) : Option (List Piece) := readPieces? cs.length cs

end Piece

end ChatCommands.Glob
