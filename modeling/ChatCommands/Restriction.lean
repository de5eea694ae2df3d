import ChatCommands.Journal

/-!
# Restrictions

A restriction decides whether a command may run. Commands name classes of restrictions; the host
registers one instance for each class, and the class that allows everyone is always registered.
-/

namespace ChatCommands

/-- How several restrictions combine. -/
inductive Policy
  | allOf
  | anyOf
  | noneOf
  deriving DecidableEq, Repr

namespace Policy

/-- All policies. -/
def all : List Policy := [allOf, anyOf, noneOf]

/-- The public name of a policy. -/
def name : Policy → String
  | allOf => "ALL_OF"
  | anyOf => "ANY_OF"
  | noneOf => "NONE_OF"

/-- A policy in words. -/
def words : Policy → String
  | allOf => "all of"
  | anyOf => "any of"
  | noneOf => "none of"

/-- The name of the class of restrictions that combines others by a policy. -/
def aggregateName : Policy → String
  | allOf => "AllOf"
  | anyOf => "AnyOf"
  | noneOf => "NoneOf"

/-- The policy of a public name. -/
def ofName? (s : String) : Option Policy := all.find? (·.name = s)

/-- The policy of the aggregates of a name, if they have one. -/
def ofAggregateName? (s : String) : Option Policy := all.find? (·.aggregateName = s)

end Policy

/-- An instance of a class of restrictions: the one that allows everyone, or one of the host. -/
inductive Restriction
  | everyone
  | host (className : String) (id : Nat)
  deriving DecidableEq, Repr

namespace Restriction

/-- The name of the class that allows everyone. -/
def everyoneName : String := "Everyone"

/-- The name of the class of a restriction. -/
def className : Restriction → String
  | everyone => everyoneName
  | host name _ => name

variable {σ : Type}

/-- Whether a restriction allows a command; the host is asked about its own. -/
def allows (ask : Restriction → Act σ Bool) : Restriction → Act σ Bool
  | everyone => return true
  | r => ask r

/-! ### Aggregates -/

/-- Asks until one denies. -/
def allAllow (ask : Restriction → Act σ Bool) : List Restriction → Act σ Bool
  | [] => return true
  | r :: rs => do
    if ← r.allows ask then allAllow ask rs
    else return false

/-- Asks until one allows. -/
def anyAllows (ask : Restriction → Act σ Bool) : List Restriction → Act σ Bool
  | [] => return false
  | r :: rs => do
    if ← r.allows ask then return true
    else anyAllows ask rs

/-- Whether restrictions combined by a policy allow a command. -/
def aggregate (ask : Restriction → Act σ Bool) (policy : Policy) (rs : List Restriction) :
    Act σ Bool :=
  match policy with
  | .allOf => allAllow ask rs
  | .anyOf => anyAllows ask rs
  | .noneOf => do return !(← anyAllows ask rs)

/-- The members of an aggregate, all of which have to be restrictions. -/
def members (aggregate : String) (rs : List (Option Restriction)) :
    Except Error (List Restriction) :=
  match rs.mapM id with
  | some rs => .ok rs
  | none => .error (.misuse (.aggregateOfOthers aggregate))

end Restriction

/-! ### Registered restrictions -/

/-- The registered restrictions by the names of their classes. -/
structure Restrictions where
  instances : Table String Restriction

namespace Restrictions

/-- Only the restriction that allows everyone. -/
def start : Restrictions := ⟨.ofList [(Restriction.everyoneName, .everyone)]⟩

instance : Inhabited Restrictions := ⟨start⟩

/-- Registers a restriction in the place of the one of its class. -/
def add (l : Restrictions) (r : Option Restriction) : Except Error Restrictions :=
  match r with
  | some r => .ok ⟨l.instances.set r.className r⟩
  | none => .error (.misuse .notARestriction)

/-- Registers several restrictions. -/
def addAll (l : Restrictions) (rs : List (Option Restriction)) : Except Error Restrictions :=
  rs.foldlM add l

/-- Whether a class has an instance. -/
def contains (l : Restrictions) (className : String) : Bool := l.instances.contains className

/-- The instance of a class. If the class is left out, there is no name for the fault to tell. -/
def get (l : Restrictions) (className : Option String) : Except Error Restriction :=
  match className with
  | none => .error (.bare .missingAttribute)
  | some className =>
    match l.instances.get? className with
    | some r => .ok r
    | none =>
      .error (.fault (.make .unknownRestriction
        ("Restriction " ++ quoted className ++ " is not registered")
        [("restriction", .named className)]))

end Restrictions

end ChatCommands
