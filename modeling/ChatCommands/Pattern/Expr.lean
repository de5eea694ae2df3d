import ChatCommands.Pattern.Slot
import ChatCommands.Text.Blank

/-!
# Pattern expressions

The expressions that usages compile to. Matching goes from left to right and backtracks: a run of
characters is tried at its full length before shorter ones, an optional part is tried before it is
skipped, and branches are tried in order. What was captured on a path that fails is forgotten.
-/

namespace ChatCommands.Pattern

/-- What a slot captures. -/
inductive Shape
  /-- A run of characters that are no blanks. -/
  | word
  /-- A run of any characters. -/
  | rest
  /-- A fixed text. -/
  | exact (text : String)
  deriving DecidableEq, Repr

/-- A pattern expression. -/
inductive Expr where
  /-- What separates two captures: a run of blanks, or the end of the text. -/
  | boundary
  | capture (slot : Slot) (shape : Shape)
  | sequence (parts : List Expr)
  | alternatives (branches : List Expr)
  | optional (body : Expr)
  deriving Repr

/-- A slot with the text that it captured. -/
structure Capture where
  slot : Slot
  text : String
  deriving DecidableEq, Repr

namespace Expr

/-! ### Text of an expression -/

/-- Whether a character has a meaning of its own in the text of an expression. -/
def isSpecial (c : Char) : Bool :=
  "()[]\x7b\x7d?*+-|^$\\.&~# \t\n\r\x0b\x0c".toList.contains c

/-- A fixed text, with a backslash before each special character. -/
def escape (cs : List Char) : List Char :=
  cs.flatMap fun c => if isSpecial c then ['\\', c] else [c]

/-- The text of a boundary. -/
def boundaryText : String := "(?:\\s+|$)"

/-- The text of what a slot captures. -/
def shapeText : Shape → String
  | .word => "\\S+"
  | .rest => ".+"
  | .exact text => String.ofList (escape text.toList)

mutual
/-- The text of an expression, as a regular expression. -/
def text : Expr → String
  | boundary => boundaryText
  | capture slot shape => "(?P<" ++ slot.group ++ ">" ++ shapeText shape ++ ")"
  | sequence parts => String.join (texts parts)
  | alternatives branches => "(?:" ++ "|".intercalate (texts branches) ++ ")"
  | optional body => "(?:" ++ text body ++ ")?"

/-- The texts of several expressions. -/
def texts : List Expr → List String
  | [] => []
  | e :: es => text e :: texts es
end

mutual
/-- The slots of an expression, left to right. -/
def slots : Expr → List Slot
  | boundary => []
  | capture slot _ => [slot]
  | sequence parts => slotsAll parts
  | alternatives branches => slotsAll branches
  | optional body => slots body

/-- The slots of several expressions. -/
def slotsAll : List Expr → List Slot
  | [] => []
  | e :: es => slots e ++ slotsAll es
end

/-! ### Matching -/

variable {β : Type}

/-- Tries to take the first `n` characters, then fewer, down to one. -/
def longestFirst (cs : List Char) (next : List Char → List Char → Option β) : Nat → Option β
  | 0 => none
  | n + 1 => next (cs.take (n + 1)) (cs.drop (n + 1)) <|> longestFirst cs next n

/-- Takes what a slot of a shape may capture at the front of `cs`. -/
def takeShape (shape : Shape) (cs : List Char) (next : List Char → List Char → Option β) :
    Option β :=
  match shape with
  | .word => longestFirst cs next (cs.takeWhile Text.isSolid).length
  | .rest => longestFirst cs next cs.length
  | .exact text =>
    if text.toList.isPrefixOf cs then next text.toList (cs.drop text.toList.length) else none

/-- Takes a run of blanks, or nothing at the end. -/
def takeBoundary (cs : List Char) (next : List Char → Option β) : Option β :=
  longestFirst cs (fun _ rest => next rest) (cs.takeWhile Text.isBlank).length <|>
    if cs.isEmpty then next cs else none

mutual
/-- Matches an expression at the front of a text and goes on with what it captured and the rest. -/
def run : Expr → List Char → (List Capture → List Char → Option β) → Option β
  | boundary, cs, next => takeBoundary cs fun rest => next [] rest
  | capture slot shape, cs, next =>
    takeShape shape cs fun taken rest => next [⟨slot, String.ofList taken⟩] rest
  | sequence parts, cs, next => runAll parts cs next
  | alternatives branches, cs, next => runAny branches cs next
  | optional body, cs, next => run body cs next <|> next [] cs

/-- Matches expressions one after another. -/
def runAll : List Expr → List Char → (List Capture → List Char → Option β) → Option β
  | [], cs, next => next [] cs
  | e :: es, cs, next =>
    run e cs fun captured rest =>
      runAll es rest fun others rest => next (captured ++ others) rest

/-- Matches the first expression that lets the whole match succeed. -/
def runAny : List Expr → List Char → (List Capture → List Char → Option β) → Option β
  | [], _, _ => none
  | e :: es, cs, next => run e cs next <|> runAny es cs next
end

/-- The captures of the first way to match an expression against a whole text. -/
def captures? (e : Expr) (cs : List Char) : Option (List Capture) :=
  e.run cs fun captured rest => if rest.isEmpty then some captured else none

end Expr

end ChatCommands.Pattern
