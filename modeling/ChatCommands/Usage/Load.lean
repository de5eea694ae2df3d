import ChatCommands.Journal
import ChatCommands.Usage.Parser

/-!
# Loading usages

Reading a usage is told to the journal when it succeeds.
-/

namespace ChatCommands.Usage

variable {σ : Type} [Journal σ]

/-- Reads a usage from a value and notes what it was read into. -/
def load (v : Value) : Act σ Usage := do
  let usage ← Act.ofExcept (ofValue v)
  Act.note .grammar .debug
    ("Parsed usage " ++ quoted usage.source ++ " into " ++ usage.shown)
  return usage

/-- Reads the usage of a command, which may be missing. -/
def loadIfAny (v : Value) : Act σ (Option Usage) :=
  match v with
  | .null => return none
  | v => return some (← load v)

end ChatCommands.Usage
