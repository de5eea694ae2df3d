import ChatCommands.Decimal
import ChatCommands.Fault.Code
import ChatCommands.MessageClass

/-!
# Values

Messages, converted parameters, additional data and the options of a fault are values that the host
chooses freely. Equality of values is numeric on numbers, truth values and codes included, and does
not look at the order of the entries of a map.
-/

namespace ChatCommands

/-- A value of the host. -/
inductive Value where
  /-- No value. -/
  | null
  /-- A value that was not given. -/
  | unset
  | bool (b : Bool)
  | int (i : Int)
  | decimal (d : Decimal)
  /-- A binary fraction, by the shortest decimal that denotes it. -/
  | real (d : Decimal)
  | text (s : String)
  | list (vs : List Value)
  | map (entries : List (Value × Value))
  | code (c : FaultCode)
  /-- A class, by its name. -/
  | named (className : String)
  /-- A message that is known by its class only. -/
  | ofClass (cls : MessageClass)

namespace Value

instance : Inhabited Value := ⟨.null⟩

/-- The number that a value counts as. -/
def number? : Value → Option Decimal
  | bool b => some (.ofInt (if b then 1 else 0))
  | int i => some (.ofInt i)
  | decimal d => some d
  | real d => some d
  | code c => some (.ofInt c.number)
  | _ => none

mutual
/-- Whether two values are equal. -/
def same : Value → Value → Bool
  | null, null => true
  | unset, unset => true
  | text s, text t => s == t
  | named s, named t => s == t
  | ofClass c, ofClass d => c = d
  | list vs, list ws => sameList vs ws
  | map es, map fs => es.length == fs.length && within es fs
  | v, w =>
    match v.number?, w.number? with
    | some d, some e => d.sameValue e
    | _, _ => false

/-- Whether two lists hold equal values at equal places. -/
def sameList : List Value → List Value → Bool
  | [], [] => true
  | v :: vs, w :: ws => same v w && sameList vs ws
  | _, _ => false

/-- Whether each entry has an equal one among others. -/
def within : List (Value × Value) → List (Value × Value) → Bool
  | [], _ => true
  | (k, v) :: es, fs => fs.any (fun f => same k f.1 && same v f.2) && within es fs
end

instance : BEq Value := ⟨same⟩

/-- Whether a value counts as true: all do but nothing, zero and what is empty. -/
def truthy : Value → Bool
  | null | unset | bool false => false
  | int i => i != 0
  | decimal d | real d => d.coefficient != 0
  | text s => s != ""
  | list vs => !vs.isEmpty
  | map es => !es.isEmpty
  | _ => true

/-- A value, or a default in the place of one that was not given. -/
def coalesce (v default : Value) : Value :=
  match v with
  | unset => default
  | v => v

/-- Whether a value can be the key of a map. -/
def isKey : Value → Bool
  | list _ | map _ => false
  | _ => true

/-- The class of whole numbers. -/
def integerClass : MessageClass := .inheriting [.object] 2 "int"

/-- The class of a value as a message. -/
def messageClass : Value → MessageClass
  | text _ => .plainText
  | ofClass c => c
  | int _ => integerClass
  | bool _ => .inheriting [integerClass] 3 "bool"
  | code _ => .inheriting [integerClass] 4 "FaultCode"
  | null => .inheriting [.object] 5 "NoneType"
  | unset => .inheriting [.object] 6 "UnsetType"
  | decimal _ => .inheriting [.object] 7 "Decimal"
  | real _ => .inheriting [.object] 8 "float"
  | list _ => .inheriting [.object] 9 "list"
  | map _ => .inheriting [.object] 10 "dict"
  | named _ => .inheriting [.object] 11 "type"

/-- The name of the class of a value. -/
def className (v : Value) : String := v.messageClass.name

end Value

end ChatCommands
