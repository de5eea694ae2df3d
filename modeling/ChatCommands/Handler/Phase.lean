import ChatCommands.Command

/-!
# Phases and outcomes

A message moves through six phases. What follows a phase is a later one, or the end; a context that
already carries a prefix, an alias or a command goes straight to the phase that uses it.
-/

namespace ChatCommands

/-- The phases of resolution. -/
inductive Phase
  | beforePrefix
  | afterPrefix
  | beforeAlias
  | afterAlias
  | beforeCommand
  | afterCommand
  deriving DecidableEq, Repr

namespace Phase

/-- All phases, in order. -/
def all : List Phase :=
  [beforePrefix, afterPrefix, beforeAlias, afterAlias, beforeCommand, afterCommand]

/-- The place of a phase in the order. -/
def number : Phase → Nat
  | beforePrefix => 1
  | afterPrefix => 2
  | beforeAlias => 3
  | afterAlias => 4
  | beforeCommand => 5
  | afterCommand => 6

/-- The public name of a phase. -/
def name : Phase → String
  | beforePrefix => "BEFORE_PREFIX"
  | afterPrefix => "AFTER_PREFIX"
  | beforeAlias => "BEFORE_ALIAS_AND_PARAMS"
  | afterAlias => "AFTER_ALIAS_AND_PARAMS"
  | beforeCommand => "BEFORE_COMMAND"
  | afterCommand => "AFTER_COMMAND"

/-- A phase in words. -/
def words : Phase → String
  | beforePrefix => "before prefix computation"
  | afterPrefix => "after prefix computation"
  | beforeAlias => "before alias and parameter string computation"
  | afterAlias => "after alias and parameter string computation"
  | beforeCommand => "before command computation"
  | afterCommand => "after command computation"

/-- A phase in words at the start of a sentence. -/
def sentence (p : Phase) : String := p.words.capitalize

/-- The phase of a public name. -/
def ofName? (s : String) : Option Phase := all.find? (·.name = s)

/-- The phase that a value stands for, by its number or its name. -/
def ofValue? (v : Value) : Option Phase :=
  all.find? fun p => v == .int p.number || v == .text p.name

theorem number_le_six (p : Phase) : p.number ≤ 6 := by cases p <;> decide

end Phase

/-- How the resolution of a message ends. -/
inductive Outcome
  | execute
  | notFound
  | ignored
  | notAllowed
  deriving DecidableEq, Repr

namespace Outcome

/-- All outcomes. -/
def all : List Outcome := [execute, notFound, ignored, notAllowed]

/-- The public name of an outcome. -/
def name : Outcome → String
  | execute => "EXECUTE"
  | notFound => "NOT_FOUND"
  | ignored => "IGNORED"
  | notAllowed => "NOT_ALLOWED"

/-- An outcome in words. -/
def words : Outcome → String
  | execute => "execute"
  | notFound => "not found"
  | ignored => "ignored"
  | notAllowed => "not allowed"

/-- An outcome as it would be written in a program. -/
def shown (o : Outcome) : String := "<Outcome." ++ o.name ++ ": " ++ quoted o.words ++ ">"

end Outcome

/-- What follows the phase of number `n`: a later phase, or the end. -/
inductive Next (n : Nat)
  | phase (p : Phase) (later : n < p.number)
  | finish (o : Outcome)

namespace Next

/-- Whether a certain phase follows. -/
def isPhase {n : Nat} (next : Next n) (p : Phase) : Bool :=
  match next with
  | phase q _ => q = p
  | finish _ => false

end Next

/-- What follows for a context when `nominal` is the next phase in order. -/
def Context.forward {κ : Type} {n : Nat} (c : Context κ) (nominal : Phase)
    (later : n < nominal.number) : Next n :=
  if c.command.isSome then .finish .execute
  else if h : c.commandAlias.isSome ∧ nominal.number < Phase.beforeCommand.number then
    .phase .beforeCommand (Nat.lt_trans later h.2)
  else if h : c.commandPrefix.isSome ∧ nominal.number < Phase.beforeAlias.number then
    .phase .beforeAlias (Nat.lt_trans later h.2)
  else .phase nominal later

end ChatCommands
