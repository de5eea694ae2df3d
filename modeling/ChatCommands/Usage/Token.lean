import ChatCommands.Decimal
import ChatCommands.Text.Blank
import ChatCommands.Text.Quoted

/-!
# Tokens of a usage

A usage is written with placeholders `<name>`, trailing placeholders `<name...>`, literals in single
quotes, and five marks. Every token has one written form, and blanks may stand between tokens.
-/

namespace ChatCommands.Usage

/-- The marks that group terms. -/
inductive Mark
  | openOptional
  | closeOptional
  | openGroup
  | closeGroup
  | bar
  deriving DecidableEq, Repr

namespace Mark

/-- All marks. -/
def all : List Mark := [openOptional, closeOptional, openGroup, closeGroup, bar]

/-- How a mark is written. -/
def char : Mark → Char
  | openOptional => '['
  | closeOptional => ']'
  | openGroup => '('
  | closeGroup => ')'
  | bar => '|'

/-- The mark that a character writes. -/
def ofChar? (c : Char) : Option Mark := all.find? (·.char = c)

/-- A mark as a text. -/
def text (m : Mark) : String := String.singleton m.char

@[simp] theorem ofChar?_char (m : Mark) : ofChar? m.char = some m := by cases m <;> rfl

theorem eq_char_of_ofChar? {c : Char} {m : Mark} (h : ofChar? c = some m) : c = m.char := by
  have := List.find?_some h
  simpa [eq_comm] using this

end Mark

/-- What a token says. -/
inductive Lexeme
  | placeholder (name : String)
  | trailing (name : String)
  | literal (text : String)
  | mark (m : Mark)
  /-- The end of the usage. -/
  | finish
  deriving DecidableEq, Repr

/-- What ends the name of a trailing placeholder. -/
def trailingMarker : List Char := ['.', '.', '.']

namespace Lexeme

/-- The kind of a token, by which the public API tells tokens apart. -/
def kind : Lexeme → String
  | placeholder _ => "placeholder"
  | trailing _ => "trailing"
  | literal _ => "literal"
  | mark m => m.text
  | finish => "end"

/-- The name, the text or the mark that a token carries. -/
def value : Lexeme → String
  | placeholder name | trailing name => name
  | literal text => text
  | mark m => m.text
  | finish => ""

/-- How a token is written. -/
def written : Lexeme → List Char
  | placeholder name => '<' :: name.toList ++ ['>']
  | trailing name => '<' :: name.toList ++ trailingMarker ++ ['>']
  | literal text => '\'' :: text.toList ++ ['\'']
  | mark m => [m.char]
  | finish => []

/-- The placeholder of a name as it stands between the brackets; a final marker makes it trailing.
There is none when no name is left. -/
def ofName? (name : List Char) : Option Lexeme :=
  if trailingMarker.isSuffixOf name then
    let stem := name.take (name.length - trailingMarker.length)
    if stem.isEmpty then none else some (trailing (String.ofList stem))
  else if name.isEmpty then none
  else some (placeholder (String.ofList name))

end Lexeme

/-- A token with the place of its first character. -/
structure Token where
  lexeme : Lexeme
  position : Nat
  deriving DecidableEq, Repr

/-- A token as it would be written in a program. -/
def Token.shown (t : Token) : String :=
  "Token(" ++ quoted t.lexeme.kind ++ ", " ++ quoted t.lexeme.value ++ ", " ++
    String.ofList (digits t.position) ++ ")"

end ChatCommands.Usage
