/-!
# Classes of messages

A chat message belongs to a class, and a converter for a class serves the messages of every class
below it. Which classes stand below a class is asked of that class: it may answer by itself, as an
interface does that goes by what a class has, and else inheritance counts. So what stands below what
need not be an order.
-/

namespace ChatCommands

/-- A class of messages. Classes of one name and with the same bases are told apart by their
numbers. -/
structure MessageClass where
  id : Nat
  name : String
  /-- The numbers of the classes that the class inherits from, near and far. -/
  ancestors : List Nat := []
  /-- Which classes the class lets stand below it and which not, by their numbers. For the others
  inheritance counts. -/
  answers : List (Nat × Bool) := []
  deriving DecidableEq

namespace MessageClass

/-- The class that inherits from several classes. -/
def inheriting (bases : List MessageClass) (id : Nat) (name : String) : MessageClass where
  id := id
  name := name
  ancestors := bases.flatMap fun base => base.id :: base.ancestors

/-- The class that every other one inherits from. -/
def object : MessageClass := ⟨0, "object", [], []⟩

/-- The class of messages that are plain texts. -/
def plainText : MessageClass := inheriting [object] 1 "str"

/-- Whether messages of class `c` count as messages of class `d`. -/
def isBelow (c d : MessageClass) : Bool :=
  (d.answers.lookup c.id).getD (c.id == d.id || c.ancestors.contains d.id)

end MessageClass

end ChatCommands
