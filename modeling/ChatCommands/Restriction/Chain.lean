import ChatCommands.Restriction

/-!
# Chains of restrictions

A chain is a boolean expression over classes of restrictions. It is evaluated from left to right,
and a part that cannot change the answer any more is not asked.
-/

namespace ChatCommands

/-- A boolean expression over classes of restrictions. A part for which the class is left out fails
when it is asked. -/
inductive Chain
  | single (className : Option String)
  | both (left right : Chain)
  | either (left right : Chain)
  | negated (element : Chain)
  deriving DecidableEq, Repr, Inhabited

/-- The policy that a command gives for its restrictions. -/
inductive PolicyChoice
  | unspecified
  | chosen (policy : Policy)
  /-- Something that is no policy. -/
  | invalid
  deriving DecidableEq, Repr

/-- A value as a choice of a policy, which is named or left out. -/
def PolicyChoice.ofValue : Value → PolicyChoice
  | .null => unspecified
  | .text s => (Policy.ofName? s).elim invalid chosen
  | _ => invalid

namespace Chain

/-- A chain as it would be written in a program. A part without a class has no name to be shown. -/
def shown : Chain → Except Error String
  | single none => .error (.bare .missingAttribute)
  | single (some name) => .ok name
  | both l r => return "(" ++ (← l.shown) ++ " & " ++ (← r.shown) ++ ")"
  | either l r => return "(" ++ (← l.shown) ++ " | " ++ (← r.shown) ++ ")"
  | negated e => return "~" ++ (← e.shown)

/-- What may be given as an element of a chain: a class of restrictions or nothing, a chain, or
something else. -/
inductive Operand
  | ofClass (className : Option String)
  | ofChain (chain : Chain)
  | other
  deriving DecidableEq, Repr

/-- The chain of an operand. -/
def element : Operand → Except Error Chain
  | .ofClass className => .ok (single className)
  | .ofChain c => .ok c
  | .other => .error (.misuse .notARestrictionClass)

/-- The chain that allows everyone. -/
def everyone : Chain := single (some Restriction.everyoneName)

/-- The chain of a list of elements combined by a policy. -/
def combine (policy : Policy) (first : Chain) (rest : List Chain) : Chain :=
  match policy with
  | .allOf => rest.foldl both first
  | .anyOf => rest.foldl either first
  | .noneOf => rest.foldl (fun l e => both l (negated e)) (negated first)

/-- The chain of the restrictions of a command. Several restrictions need a policy. -/
def make (elements : List Chain) (choice : PolicyChoice) : Except Error Chain :=
  match choice, elements with
  | .invalid, _ => .error (.misuse .notAPolicy)
  | _, [] => .ok everyone
  | .chosen policy, first :: rest => .ok (combine policy first rest)
  | .unspecified, [first] => .ok (combine .allOf first [])
  | .unspecified, _ => do
    throw (.fault (.make .restrictionPolicy
      ("Multiple restrictions [" ++ commaSeparated (← elements.mapM shown) ++
        "] given without a restriction policy") []))

/-- The chain of operands combined by a policy. -/
def ofOperands (operands : List Operand) (choice : PolicyChoice) : Except Error Chain := do
  make (← operands.mapM element) choice

variable {σ : Type}

/-- Whether a chain allows a command, by the registered restrictions. -/
def allows (registered : Restrictions) (ask : Restriction → Act σ Bool) : Chain → Act σ Bool
  | single name => do (← Act.ofExcept (registered.get name)).allows ask
  | both l r => do
    if ← l.allows registered ask then r.allows registered ask
    else return false
  | either l r => do
    if ← l.allows registered ask then return true
    else r.allows registered ask
  | negated e => do return !(← e.allows registered ask)

end Chain

end ChatCommands
