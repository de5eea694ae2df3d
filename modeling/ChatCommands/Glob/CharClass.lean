import ChatCommands.Decimal
import ChatCommands.Text.Blank
import ChatCommands.Text.Digit
import ChatCommands.Text.WordChar

/-!
# Character classes

What stands between brackets in a pattern: characters, ranges of characters and categories, or all
characters but these. A closing bracket at the very start is a member of the class.
-/

namespace ChatCommands.Glob

/-- The categories that an escaped letter names. -/
inductive Category
  | digit
  | blank
  | word
  deriving DecidableEq, Repr

namespace Category

/-- Whether a character is of a category. -/
def mem (c : Char) : Category → Bool
  | digit => Text.digits.mem c
  | blank => Text.isBlank c
  | word => Text.wordChars.mem c

/-- The category of a small letter. -/
def ofLetter? : Char → Option Category
  | 'd' => some digit
  | 's' => some blank
  | 'w' => some word
  | _ => none

end Category

/-- A member of a character class; characters are given by their code points. -/
inductive ClassItem
  | point (n : Nat)
  | range (low high : Nat)
  | category (c : Category) (negated : Bool)
  deriving DecidableEq, Repr

/-- Whether a character is of an item. -/
def ClassItem.mem (c : Char) : ClassItem → Bool
  | point n => c.toNat == n
  | range low high => low ≤ c.toNat && c.toNat ≤ high
  | category k negated => k.mem c != negated

/-- The names of characters, as the host knows them. -/
class CharNames where
  named? : String → Option Char

/-- A host that knows no names of characters. -/
abbrev CharNames.unknown : CharNames := ⟨fun _ => none⟩

/-- A character class. -/
structure CharClass where
  negated : Bool
  items : List ClassItem
  deriving DecidableEq, Repr

namespace CharClass

/-- Whether a character is of a class. -/
def mem (k : CharClass) (c : Char) : Bool := k.items.any (·.mem c) != k.negated

/-- The class of one character. -/
def only (c : Char) : CharClass := ⟨false, [.point c.toNat]⟩

/-- The class of all characters but one. -/
def allBut (c : Char) : CharClass := ⟨true, [.point c.toNat]⟩

@[simp] theorem mem_only (c d : Char) : (only c).mem d = (d.toNat == c.toNat) := by
  simp [mem, only, ClassItem.mem]

@[simp] theorem mem_allBut (c d : Char) : (allBut c).mem d = !(d.toNat == c.toNat) := by
  simp [mem, allBut, ClassItem.mem]

/-! ### Escapes -/

/-- The number of a digit in a base up to sixteen. -/
def digitValue? (base : Nat) (c : Char) : Option Nat :=
  let n := c.toNat
  let value :=
    if 48 ≤ n ∧ n ≤ 57 then n - 48
    else if 97 ≤ n ∧ n ≤ 102 then n - 87
    else if 65 ≤ n ∧ n ≤ 70 then n - 55
    else base
  if value < base then some value else none

/-- The number that at most `width` digits denote, how many there are, and what follows. -/
def readDigits (base : Nat) : (width value count : Nat) → List Char → Nat × Nat × List Char
  | 0, value, count, cs => (value, count, cs)
  | _ + 1, value, count, [] => (value, count, [])
  | width + 1, value, count, c :: cs =>
    match digitValue? base c with
    | some d => readDigits base width (base * value + d) (count + 1) cs
    | none => (value, count, c :: cs)

/-- The number of exactly `width` hexadecimal digits. -/
def readHex? (width : Nat) (cs : List Char) : Option (ClassItem × List Char) :=
  let (value, count, rest) := readDigits 16 width 0 0 cs
  if count = width ∧ value ≤ 0x10ffff then some (.point value, rest) else none

/-- The control characters that an escaped letter names. -/
def control? : Char → Option Nat
  | 'a' => some 7
  | 'b' => some 8
  | 't' => some 9
  | 'n' => some 10
  | 'v' => some 11
  | 'f' => some 12
  | 'r' => some 13
  | _ => none

/-- The character of the name that stands in braces here. -/
def readName? [CharNames] : List Char → Option (ClassItem × List Char)
  | '{' :: cs =>
    match cs.dropWhile (· ≠ '}') with
    | [] => none
    | _ :: rest =>
      (CharNames.named? (String.ofList (cs.takeWhile (· ≠ '}')))).map fun c =>
        (.point c.toNat, rest)
  | _ => none

/-- What a backslash and the characters after it stand for. -/
def readEscape? [CharNames] : List Char → Option (ClassItem × List Char)
  | [] => none
  | c :: cs =>
    match control? c, Category.ofLetter? c.toLower with
    | some n, _ => some (.point n, cs)
    | none, some k => some (.category k (c ≠ c.toLower), cs)
    | none, none =>
      if c = 'x' then readHex? 2 cs
      else if c = 'u' then readHex? 4 cs
      else if c = 'U' then readHex? 8 cs
      else if c = 'N' then readName? cs
      else if (digitValue? 8 c).isSome then
        let (value, _, rest) := readDigits 8 3 0 0 (c :: cs)
        if value ≤ 0o377 then some (.point value, rest) else none
      else if c.isAlphanum then none
      else some (.point c.toNat, cs)

/-- One character of a class, escaped or not. -/
def readItem? [CharNames] : List Char → Option (ClassItem × List Char)
  | [] => none
  | '\\' :: cs => readEscape? cs
  | c :: cs => some (.point c.toNat, cs)

/-! ### Reading a class -/

/-- Reads the items of a class up to its closing bracket. A minus between two characters makes a
range, which has to go upwards. `fuel` bounds the number of items. -/
def readItems? [CharNames] : (fuel : Nat) → (read : List ClassItem) → List Char →
    Option (List ClassItem × List Char)
  | 0, _, _ => none
  | fuel + 1, read, cs => do
    if !read.isEmpty && cs.head? = some ']' then return (read, cs.drop 1)
    let (item, rest) ← readItem? cs
    match rest with
    | '-' :: ']' :: rest => return (read ++ [item, .point '-'.toNat], rest)
    | '-' :: rest =>
      let (last, rest) ← readItem? rest
      match item, last with
      | .point low, .point high =>
        if low ≤ high then readItems? fuel (read ++ [.range low high]) rest else none
      | _, _ => none
    | rest => readItems? fuel (read ++ [item]) rest

/-- Reads a class after its opening bracket, and gives what follows it. -/
def read? [CharNames] (cs : List Char) : Option (CharClass × List Char) :=
  let (negated, body) :=
    match cs with
    | '^' :: rest => (true, rest)
    | _ => (false, cs)
  (readItems? (body.length + 1) [] body).map fun (items, rest) => (⟨negated, items⟩, rest)

end CharClass

end ChatCommands.Glob
