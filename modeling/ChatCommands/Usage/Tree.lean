import ChatCommands.Fault

/-!
# Trees of usages

A usage is a tree of terms: terms one after another, alternatives of which one is chosen, optional
groups, literals, placeholders for one word and trailing placeholders for the rest of the input.
-/

namespace ChatCommands

/-- A term of a usage, with the place in the usage where it starts. -/
inductive Term where
  | literal (text : String) (position : Nat)
  | placeholder (name : String) (position : Nat)
  | trailing (name : String) (position : Nat)
  | sequence (terms : List Term) (position : Nat)
  | alternatives (branches : List Term) (position : Nat)
  | optional (child : Term) (position : Nat)
  deriving Repr

/-- A usage: its text and the term it stands for. -/
structure Usage where
  source : String
  expression : Term
  deriving Repr

namespace Term

instance : Inhabited Term := ⟨sequence [] 0⟩

/-- Where a term starts. -/
def position : Term → Nat
  | literal _ p | placeholder _ p | trailing _ p | sequence _ p | alternatives _ p
  | optional _ p => p

/-- The public name of the kind of a term. -/
def kind : Term → String
  | literal .. => "Literal"
  | placeholder .. => "Placeholder"
  | trailing .. => "TrailingPlaceholder"
  | sequence .. => "Sequence"
  | alternatives .. => "Alternatives"
  | optional .. => "Optional"

mutual
/-- A term and all terms in it, outer before inner, left to right. -/
def walk : Term → List Term
  | literal t p => [literal t p]
  | placeholder n p => [placeholder n p]
  | trailing n p => [trailing n p]
  | sequence ts p => sequence ts p :: walkAll ts
  | alternatives ts p => alternatives ts p :: walkAll ts
  | optional t p => optional t p :: walk t

/-- The terms of a list with all terms in them. -/
def walkAll : List Term → List Term
  | [] => []
  | t :: ts => walk t ++ walkAll ts
end

mutual
/-- A term as it would be written in a program. -/
def shown : Term → String
  | literal t _ => "Literal(" ++ quoted t ++ ")"
  | placeholder n _ => "Placeholder(" ++ quoted n ++ ")"
  | trailing n _ => "TrailingPlaceholder(" ++ quoted n ++ ")"
  | sequence ts _ => "Sequence(" ++ commaSeparated (shownAll ts) ++ ")"
  | alternatives ts _ => "Alternatives(" ++ commaSeparated (shownAll ts) ++ ")"
  | optional t _ => "Optional(" ++ shown t ++ ")"

/-- The terms of a list, each as it would be written. -/
def shownAll : List Term → List String
  | [] => []
  | t :: ts => shown t :: shownAll ts
end

end Term

namespace Usage

/-- A usage as it would be written in a program. -/
def shown (u : Usage) : String := "Usage(" ++ u.expression.shown ++ ")"

/-- The kinds and places of a usage and its terms, outer before inner, left to right. -/
def outline (u : Usage) : List (String × Nat) :=
  ("Usage", 0) :: u.expression.walk.map fun t => (t.kind, t.position)

/-- The names of the placeholders of a usage, trailing ones included, left to right. -/
def placeholderNames (u : Usage) : List String :=
  u.expression.walk.filterMap fun
    | .placeholder n _ | .trailing n _ => some n
    | _ => none

/-- Terms do not change: no part of the term at an index of the outline can be written. -/
def write (u : Usage) (index : Nat) : Except Error Usage :=
  match u.outline[index]? with
  | some (kind, _) => .error (.misuse (.immutable kind))
  | none => .ok u

end Usage

end ChatCommands
