import ChatCommands.Fault
import ChatCommands.Usage.Token

/-!
# Errors in a usage

What can be wrong with a usage, one constructor per cause. Each cause has a code and points at the
part of the usage that it is about.
-/

namespace ChatCommands.Usage

/-- What is wrong with a usage. -/
inductive SyntaxError
  /-- A placeholder without closing bracket; `rest` is the usage from its start. -/
  | openPlaceholder (position : Nat) (rest : String)
  /-- A placeholder without a name. -/
  | emptyPlaceholder (position : Nat) (token : String)
  /-- A literal without closing quote; `rest` is the usage from its start. -/
  | openLiteral (position : Nat) (rest : String)
  /-- A literal without text. -/
  | emptyLiteral (position : Nat)
  /-- A character that starts no token. -/
  | strayCharacter (position : Nat) (char : Char)
  /-- A usage without tokens. -/
  | emptyUsage
  /-- A mark after the end of the expression. -/
  | strayMark (position : Nat) (mark : Mark)
  /-- A mark, or the end of the usage, in the place of a term. -/
  | missingTerm (position : Nat) (found : Option Mark)
  /-- A group that is not closed by its mark. -/
  | openGroup (position : Nat) (opening closing : Mark)
  /-- Alternatives with one branch only. -/
  | singleAlternative (position : Nat)
  /-- A trailing placeholder that something may follow. -/
  | trailingNotLast (position : Nat) (name : String)
  /-- A second trailing placeholder. -/
  | secondTrailing (position : Nat) (name : String)
  deriving DecidableEq, Repr

namespace SyntaxError

/-- The code of a cause. -/
def code : SyntaxError → FaultCode
  | openPlaceholder .. => .unterminatedPlaceholder
  | emptyPlaceholder .. | emptyLiteral .. => .emptyName
  | openLiteral .. => .unterminatedLiteral
  | strayCharacter .. | strayMark .. | missingTerm .. => .unexpectedToken
  | emptyUsage => .emptyUsage
  | openGroup .. => .unterminatedGroup
  | singleAlternative .. => .singleAlternative
  | trailingNotLast .. | secondTrailing .. => .misplacedTrailingPlaceholder

/-- Where the usage is wrong. -/
def position : SyntaxError → Nat
  | openPlaceholder p _ | emptyPlaceholder p _ | openLiteral p _ | emptyLiteral p
  | strayCharacter p _ | strayMark p _ | missingTerm p _ | openGroup p _ _ | singleAlternative p
  | trailingNotLast p _ | secondTrailing p _ => p
  | emptyUsage => 0

/-- The part of the usage that is wrong. -/
def token : SyntaxError → String
  | openPlaceholder _ rest | openLiteral _ rest => rest
  | emptyPlaceholder _ token => token
  | emptyLiteral _ => "''"
  | strayCharacter _ c => String.singleton c
  | emptyUsage => ""
  | strayMark _ m => m.text
  | missingTerm _ found => found.elim "" Mark.text
  | openGroup _ opening _ => opening.text
  | singleAlternative _ => "("
  | trailingNotLast _ name | secondTrailing _ name =>
    String.ofList (Lexeme.trailing name).written

/-- What is said about a cause, without the usage. -/
def description (e : SyntaxError) : String :=
  let place := natText e.position
  match e with
  | openPlaceholder .. => "Unterminated placeholder starting at position " ++ place
  | emptyPlaceholder .. => "Placeholder at position " ++ place ++ " has an empty name"
  | openLiteral .. => "Unterminated literal starting at position " ++ place
  | emptyLiteral .. => "Literal at position " ++ place ++ " is empty"
  | strayCharacter .. => "Unexpected character " ++ quoted e.token ++ " at position " ++ place
  | emptyUsage => "Usage must not be empty"
  | strayMark .. => "Unexpected " ++ quoted e.token ++ " at position " ++ place
  | missingTerm _ none => "Expected a term but found end of usage at position " ++ place
  | missingTerm _ (some m) =>
    "Expected a term but found " ++ quoted m.text ++ " at position " ++ place
  | openGroup _ opening closing =>
    "Group opened with " ++ quoted opening.text ++ " at position " ++ place ++
      " is not closed by " ++ quoted closing.text
  | singleAlternative .. => "Alternatives at position " ++ place ++ " need at least two branches"
  | trailingNotLast .. => "Placeholder '" ++ e.token ++ "' must be the last term"
  | secondTrailing .. => "Only one trailing placeholder may be used"

/-- The fault of a cause in a usage. -/
def toFault (e : SyntaxError) (usage : String) : Fault :=
  .make .usageSyntax (e.description ++ " in usage string '" ++ usage ++ "'")
    [("code", .code e.code), ("usage", .text usage), ("position", .int e.position),
      ("token", .text e.token)]

end SyntaxError

end ChatCommands.Usage
