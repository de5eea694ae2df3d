import ChatCommands.Decimal
import ChatCommands.Value.Shown

/-!
# Slots

A pattern captures the parts of a text in slots, one for each placeholder and each literal of its
usage. A slot bears the name of the placeholder, or the text of the literal, and a group name that
no other slot of the pattern has.
-/

namespace ChatCommands

/-- A place of a pattern that captures a part of the text. -/
structure Slot where
  name : String
  group : String
  isLiteral : Bool
  deriving DecidableEq, Repr

namespace Slot

/-- Whether a character may stand in a group name: the ASCII letters and digits. -/
def isGroupChar (c : Char) : Bool :=
  ('a' ≤ c && c ≤ 'z') || ('A' ≤ c && c ≤ 'Z') || isDigit c

/-- What the group name of a slot is made from. Slots of one key are numbered. -/
def key (name : String) (isLiteral : Bool) : List Char :=
  name.toList.filter isGroupChar ++ (if isLiteral then "Literal".toList else [])

/-- The slot of a name that follows `index` slots of the same key. -/
def numbered (name : String) (isLiteral : Bool) (index : Nat) : Slot where
  name := name
  group := String.ofList ('_' :: key name isLiteral ++ '_' :: digits index)
  isLiteral := isLiteral

/-- A slot as it would be written in a program. -/
def shown (s : Slot) : String :=
  "Slot(" ++ quoted s.name ++ ", " ++ quoted s.group ++ ", literal=" ++
    (Value.bool s.isLiteral).shown ++ ")"

end Slot

end ChatCommands
