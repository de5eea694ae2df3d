import ChatCommands.Pattern.Expr
import ChatCommands.Table
import ChatCommands.Usage.Tree

/-!
# Patterns

A usage compiles to a pattern, against which parameter texts are matched. Terms that follow each
other are separated by a boundary. Beside an optional term the boundary belongs to the term, so that
skipping the term skips its separator too.
-/

namespace ChatCommands

/-- The compiled form of a usage. -/
structure Pattern where
  usage : String
  body : Pattern.Expr
  deriving Repr

namespace Pattern

/-! ### Fragments -/

/-- The expression of a term. Only an optional term takes boundaries in, before or after its
body. -/
structure Fragment where
  body : Expr
  isOptional : Bool
  lead : Bool
  trail : Bool

namespace Fragment

/-- The fragment of a term that has to be there. -/
def required (body : Expr) : Fragment := ⟨body, false, false, false⟩

/-- The fragment of a term that may be absent. -/
def skippable (body : Expr) : Fragment := ⟨body, true, false, false⟩

/-- The expression that a fragment stands for. -/
def expr (f : Fragment) : Expr :=
  if f.isOptional then
    .optional (.sequence
      ((if f.lead then [.boundary] else []) ++ f.body :: (if f.trail then [.boundary] else [])))
  else f.body

end Fragment

/-- The expressions of a fragment and those that follow it. The boundary between two neighbours goes
to the end of the first one if that is optional and has none at its start, else to the start of the
second one if that is optional, else between the two. -/
def joinAfter (current : Fragment) : List Fragment → List Expr
  | [] => [current.expr]
  | next :: rest =>
    if current.isOptional && !current.lead then
      { current with trail := true }.expr :: joinAfter next rest
    else if next.isOptional then
      current.expr :: joinAfter { next with lead := true } rest
    else current.expr :: .boundary :: joinAfter next rest

/-- The expressions of fragments that follow each other. -/
def join : List Fragment → List Expr
  | [] => []
  | f :: fs => joinAfter f fs

/-- The choice between branches; without branches it matches the empty text. -/
def choice : List Expr → Expr
  | [] => .alternatives [.sequence []]
  | es => .alternatives es

/-! ### Compiling -/

/-- The keys of the slots made so far, latest first. -/
abbrev Keys := List (List Char)

/-- The slot of a name, numbered among those of its key. -/
def newSlot (name : String) (isLiteral : Bool) (seen : Keys) : Slot × Keys :=
  let key := Slot.key name isLiteral
  (.numbered name isLiteral (seen.count key), key :: seen)

mutual
/-- The fragment of a term. -/
def fragment : Term → Keys → Fragment × Keys
  | .literal text _, seen =>
    let (slot, seen) := newSlot text true seen
    (.required (.capture slot (.exact text)), seen)
  | .placeholder name _, seen =>
    let (slot, seen) := newSlot name false seen
    (.required (.capture slot .word), seen)
  | .trailing name _, seen =>
    let (slot, seen) := newSlot name false seen
    (.required (.capture slot .rest), seen)
  | .sequence terms _, seen =>
    let (fs, seen) := fragments terms seen
    (.required (.sequence (join fs)), seen)
  | .alternatives branches _, seen =>
    let (fs, seen) := fragments branches seen
    (.required (choice (fs.map Fragment.expr)), seen)
  | .optional child _, seen =>
    let (f, seen) := fragment child seen
    (.skippable f.expr, seen)

/-- The fragments of several terms. -/
def fragments : List Term → Keys → List Fragment × Keys
  | [], seen => ([], seen)
  | t :: ts, seen =>
    let (f, seen) := fragment t seen
    let (fs, seen) := fragments ts seen
    (f :: fs, seen)
end

/-- The pattern of a usage. -/
def ofUsage (u : Usage) : Pattern := ⟨u.source, (fragment u.expression []).1.expr⟩

/-! ### Patterns in use -/

/-- The slots of a pattern, in the order of their terms. -/
def slots (p : Pattern) : List Slot := p.body.slots

/-- A pattern as a regular expression. -/
def regex (p : Pattern) : String := p.body.text

/-- The groups of each slot name, in order of first appearance. -/
def groups (p : Pattern) : Table String (List String) :=
  p.slots.foldl (fun t s => t.set s.name ((t.get? s.name).getD [] ++ [s.group])) .empty

/-- What the slots capture in a text, in slot order, if the text fits. Blanks around the text do not
count. -/
def captures? (p : Pattern) (text : String) : Option (List Capture) :=
  p.body.captures? (Text.trim text.toList)

/-- A pattern as it would be written in a program. -/
def shown (p : Pattern) : String :=
  "UsagePattern(" ++ quoted p.usage ++ ", " ++ quoted p.regex ++ ")"

end Pattern

end ChatCommands
