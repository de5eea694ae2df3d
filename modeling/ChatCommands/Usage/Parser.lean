import ChatCommands.Usage.Tokens
import ChatCommands.Usage.Tree

/-!
# Reading a usage

Recursive descent over the tokens of a usage:

    expression = term+
    term       = placeholder | trailing | literal
               | '[' expression ']'
               | '(' expression ('|' expression)+ ')'

One term stands for itself, several are a sequence. A trailing placeholder takes the rest of the
input, so nothing may follow it and there is at most one.
-/

namespace ChatCommands.Usage

/-- The tokens that are left after some of `ts` were read. -/
abbrev Rest (ts : List Token) := { rest : List Token // rest.length ≤ ts.length }

/-- Where the next token starts; `finish` is the end of the usage. -/
def nextPosition (finish : Nat) : List Token → Nat
  | [] => finish
  | t :: _ => t.position

/-- The term of a list of terms: a single one stands for itself. -/
def termOf (position : Nat) : List Term → Term
  | [t] => t
  | ts => .sequence ts position

/-- Reads the mark that closes a group. -/
def closeGroup (opening closing : Mark) (position : Nat) :
    (ts : List Token) → Except SyntaxError (Rest ts)
  | [] => .error (.openGroup position opening closing)
  | t :: ts =>
    if t.lexeme = .mark closing then .ok ⟨ts, by simp⟩
    else .error (.openGroup position opening closing)

mutual
/-- Reads terms up to a mark that closes or separates, or to the end. -/
def readTerms (finish : Nat) (ts : List Token) : Except SyntaxError (List Term × Rest ts) :=
  match ts with
  | [] => .ok ([], ⟨[], by simp⟩)
  | t :: rest =>
    match t.lexeme with
    | .mark .closeOptional | .mark .closeGroup | .mark .bar | .finish =>
      .ok ([], ⟨t :: rest, by simp⟩)
    | lexeme => do
      let (term, ⟨rest₁, h₁⟩) ← readTerm finish lexeme t.position rest
      let (terms, ⟨rest₂, h₂⟩) ← readTerms finish rest₁
      return (term :: terms, ⟨rest₂, by simp; omega⟩)
termination_by 4 * ts.length + 1

/-- Reads an expression: one term or more. -/
def readExpression (finish : Nat) (ts : List Token) : Except SyntaxError (Term × Rest ts) := do
  let (terms, rest) ← readTerms finish ts
  if terms.isEmpty then
    .error (.missingTerm (nextPosition finish rest.1)
      (match rest.1 with
        | ⟨.mark m, _⟩ :: _ => some m
        | _ => none))
  else return (termOf (nextPosition finish ts) terms, rest)
termination_by 4 * ts.length + 2

/-- Reads what follows the first token of a term. -/
def readTerm (finish : Nat) (lexeme : Lexeme) (position : Nat) (ts : List Token) :
    Except SyntaxError (Term × Rest ts) :=
  match lexeme with
  | .placeholder name => .ok (.placeholder name position, ⟨ts, by simp⟩)
  | .trailing name => .ok (.trailing name position, ⟨ts, by simp⟩)
  | .literal text => .ok (.literal text position, ⟨ts, by simp⟩)
  | .mark .openGroup => do
    let (first, ⟨rest₁, h₁⟩) ← readExpression finish ts
    let (others, ⟨rest₂, h₂⟩) ← readBranches finish rest₁
    let ⟨rest₃, h₃⟩ ← closeGroup .openGroup .closeGroup position rest₂
    if others.isEmpty then .error (.singleAlternative position)
    else return (.alternatives (first :: others) position, ⟨rest₃, by omega⟩)
  | _ => do
    let (child, ⟨rest₁, h₁⟩) ← readExpression finish ts
    let ⟨rest₂, h₂⟩ ← closeGroup .openOptional .closeOptional position rest₁
    return (.optional child position, ⟨rest₂, by omega⟩)
termination_by 4 * ts.length + 3

/-- Reads the further branches of alternatives, each after a bar. -/
def readBranches (finish : Nat) (ts : List Token) : Except SyntaxError (List Term × Rest ts) :=
  match ts with
  | ⟨.mark .bar, _⟩ :: rest => do
    let (branch, ⟨rest₁, h₁⟩) ← readExpression finish rest
    let (branches, ⟨rest₂, h₂⟩) ← readBranches finish rest₁
    return (branch :: branches, ⟨rest₂, by simp; omega⟩)
  | ts => .ok ([], ⟨ts, Nat.le_refl _⟩)
termination_by 4 * ts.length + 0
end

/-! ### Places of trailing placeholders -/

mutual
/-- The first trailing placeholder that something may follow; `final` tells that nothing can
follow the term. -/
def misplaced? (final : Bool) : Term → Option SyntaxError
  | .trailing name position => if final then none else some (.trailingNotLast position name)
  | .sequence terms _ => misplacedInSequence? final terms
  | .alternatives branches _ => misplacedInBranch? final branches
  | .optional child _ => misplaced? final child
  | .literal .. | .placeholder .. => none

/-- In a sequence only the last term can be final. -/
def misplacedInSequence? (final : Bool) : List Term → Option SyntaxError
  | [] => none
  | t :: ts => misplaced? (final && ts.isEmpty) t <|> misplacedInSequence? final ts

/-- Each branch is as final as the alternatives. -/
def misplacedInBranch? (final : Bool) : List Term → Option SyntaxError
  | [] => none
  | t :: ts => misplaced? final t <|> misplacedInBranch? final ts
end

/-- The trailing placeholders of a term, left to right. -/
def trailingPlaces (t : Term) : List (Nat × String) :=
  t.walk.filterMap fun
    | .trailing name position => some (position, name)
    | _ => none

/-- What is wrong with the trailing placeholders of an expression. -/
def trailingError? (t : Term) : Option SyntaxError :=
  match misplaced? true t with
  | some e => some e
  | none =>
    match trailingPlaces t with
    | _ :: (position, name) :: _ => some (.secondTrailing position name)
    | _ => none

/-! ### Usages -/

/-- Reads the expression that a list of tokens writes. -/
def readTokens (finish : Nat) (ts : List Token) : Except SyntaxError Term :=
  match ts with
  | [] | ⟨.finish, _⟩ :: _ => .error .emptyUsage
  | ts => do
    let (expression, rest) ← readExpression finish ts
    match rest.1 with
    | ⟨.mark m, position⟩ :: _ => .error (.strayMark position m)
    | _ => return expression

/-- Reads a usage, or tells what is wrong with it. -/
def read (source : String) : Except SyntaxError Usage := do
  let ts ← tokenize source
  let expression ← readTokens source.length ts
  match trailingError? expression with
  | some e => .error e
  | none => return ⟨source, expression⟩

/-- Reads a usage; what is wrong with it becomes a fault. -/
def parse (source : String) : Except Error Usage :=
  (read source).mapError fun e => .fault (e.toFault source)

/-- Reads a usage from a value, which has to be a text. -/
def ofValue (v : Value) : Except Error Usage :=
  match v with
  | .text source => parse source
  | _ => .error (.misuse .usageNotText)

end ChatCommands.Usage
