import ChatCommands.Fault
import ChatCommands.Text.Letters

/-!
# Counted words

A count with its word, in the plural unless the count is one. Only the regular endings are known.
-/

namespace ChatCommands

/-- Whether a text ends with another. -/
def Text.endsWith (cs ending : List Char) : Bool := ending.isSuffixOf cs

/-- The vowels, after which a final `y` stays. -/
def Text.isVowel (c : Char) : Bool := "aeiou".toList.contains c

/-- The plural of a word. -/
def plural (word : String) : String :=
  let lower := Text.lower word.toList
  if ["s", "sh", "ch", "x", "z"].any fun ending => Text.endsWith lower ending.toList then
    word ++ "es"
  else
    match lower.reverse with
    | 'y' :: c :: _ =>
      if Text.isVowel c then word ++ "s" else String.ofList word.toList.dropLast ++ "ies"
    | _ => word ++ "s"

/-- A count that may be any value, with a word that has to be a text. -/
def counted (word count : Value) : Except Error String :=
  match word with
  | .text word =>
    .ok (count.plain ++ " " ++ (if count == .int 1 then word else plural word))
  | _ => .error (.misuse .wordNotText)

/-- A number of things. -/
def countedNat (word : String) (count : Nat) : String :=
  natText count ++ " " ++ (if count = 1 then word else plural word)

end ChatCommands
