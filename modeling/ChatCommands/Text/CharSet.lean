/-!
# Sets of characters

A set of characters is kept as the increasing list of the places where membership changes, counting
from a first character that is no member. A character is a member when an odd number of changes lie
at or before it.
-/

namespace ChatCommands.Text

/-- A set of characters, given by the code points at which membership changes. -/
structure CharSet where
  changes : List Nat

/-- Membership at code point `n` after the changes `ns`, where `inside` is membership before
them. -/
def CharSet.memAfter (n : Nat) : Bool → List Nat → Bool
  | inside, [] => inside
  | inside, m :: ns => if n < m then inside else memAfter n (!inside) ns

/-- Whether a character belongs to the set. -/
def CharSet.mem (s : CharSet) (c : Char) : Bool :=
  CharSet.memAfter c.toNat false s.changes

end ChatCommands.Text
