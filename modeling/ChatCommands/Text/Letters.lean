import ChatCommands.Text.Cased
import ChatCommands.Text.CaseTables

/-!
# Letter case of texts

Lower, upper and title form. Two rules go beyond single characters: the last sigma of a word has a
lower form of its own, and in a title a cased character is lowered when a cased one precedes it.
-/

namespace ChatCommands.Text

/-- Whether the nearest character that is not looked past has case. -/
def casedAhead (cs : List Char) : Bool :=
  match cs.dropWhile caseIgnorable.mem with
  | [] => false
  | c :: _ => cased.mem c

/-- The lower form of a character that stands between `before` (nearest first) and `after`. -/
def lowerAt (before : List Char) (c : Char) (after : List Char) : List Char :=
  if c = 'Σ' then
    if casedAhead before && !casedAhead after then ['ς'] else ['σ']
  else lowerMap.apply c

/-- Lowers a text that follows the characters `before`, nearest first. -/
def lowerAfter : List Char → List Char → List Char
  | _, [] => []
  | before, c :: cs => lowerAt before c cs ++ lowerAfter (c :: before) cs

/-- The lower form of a text. -/
def lower (cs : List Char) : List Char := lowerAfter [] cs

/-- The upper form of a text. -/
def upper (cs : List Char) : List Char := cs.flatMap upperMap.apply

/-- The title form of a text that follows the characters `before`, nearest first. -/
def titleAfter : List Char → List Char → List Char
  | _, [] => []
  | before, c :: cs =>
    let here := if before.head?.any cased.mem then lowerAt before c cs else titleMap.apply c
    here ++ titleAfter (c :: before) cs

/-- The title form of a text: the first letter of each word in title case, the others lowered. -/
def title (cs : List Char) : List Char := titleAfter [] cs

end ChatCommands.Text
