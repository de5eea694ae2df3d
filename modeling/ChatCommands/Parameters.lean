import ChatCommands.Journal

/-!
# Parameters

The parameters of a command are a table from names to values. A name that was captured once has its
value; a name that was captured several times has the list of its values, in order. While the
parameters are being walked over, none of them can be fixed up.
-/

namespace ChatCommands

/-- The parameters of a command; `walks` counts the walks over them that have not ended. -/
structure Parameters where
  values : Table String Value
  walks : Nat := 0

namespace Parameters

/-- No parameters. -/
def empty : Parameters := ⟨.empty, 0⟩

instance : Inhabited Parameters := ⟨empty⟩

/-! ### Collecting captures -/

/-- The values of each name, in order of the names' first captures. -/
def grouped (pairs : List (String × Value)) : Table String (List Value) :=
  pairs.foldl (fun t (name, v) => t.set name ((t.get? name).getD [] ++ [v])) .empty

/-- A single value stands for itself, several are a list. -/
def ungrouped : List Value → Value
  | [v] => v
  | vs => .list vs

/-- The parameters of the captured values. -/
def collect (pairs : List (String × Value)) : Parameters :=
  ⟨⟨(grouped pairs).entries.map fun (name, vs) => (name, ungrouped vs)⟩, 0⟩

/-- The parameters of pairs, the later of two with one name. A missing name or value that is left
then is refused. -/
def ofPairs (pairs : List (Option String × Value)) : Except Error Parameters := do
  let entries ← (Table.ofList pairs).entries.mapM fun (name, v) =>
    match name, v with
    | none, _ | _, .null => .error (.misuse .emptyParameter)
    | some name, v => .ok (name, v)
  return ⟨⟨entries⟩, 0⟩

/-! ### Reading -/

/-- The value of a name. -/
def get? (p : Parameters) (name : Option String) : Option Value := name.bind p.values.get?

/-- The value of a name, which has to be there. -/
def item (p : Parameters) (name : Option String) : Except Error Value :=
  match p.get? name with
  | some v => .ok v
  | none => .error (.bare .missingKey)

/-- The names, in order. -/
def names (p : Parameters) : List String := p.values.keys

/-- The view of the values cannot be written. -/
def writeView (_ : Parameters) (_ : String) (_ : Value) : Except Error Parameters :=
  .error (.bare .unusable)

/-- Whether two tables of parameters hold equal values. -/
def same (p q : Parameters) : Bool := p.values.agrees q.values

/-- Parameters as they would be written in a program. -/
def shown (p : Parameters) : String :=
  "Parameters(" ++ (Value.map (p.values.entries.map fun (name, v) => (.text name, v))).shown ++ ")"

/-! ### Fixing up -/

/-- Moves the value of a placeholder to a literal when the value is the literal's text and the
literal has none. Nothing cannot be moved, and a missing placeholder has no value to compare with
it. -/
def fixup (p : Parameters) (placeholder literal : Option String) : Except Error Parameters :=
  if p.walks ≠ 0 then .error (.misuse .fixupWhileIterating)
  else
    match placeholder, p.get? placeholder, literal with
    | _, none, none => .error (.bare .missingKey)
    | some name, some v, some literal =>
      if p.values.contains literal then .ok p
      else if v == .text literal then
        .ok { p with values := (p.values.erase name).set literal v }
      else .ok p
    | _, _, _ => .ok p

/-! ### Walking -/

variable {σ : Type}

/-- Acts on each of several pairs in turn. -/
def visit (action : String → Value → Act (Parameters × σ) Unit) :
    List (String × Value) → Act (Parameters × σ) Unit
  | [] => return
  | (name, v) :: es => do
    action name v
    visit action es

/-- Acts on each pair of name and value that was there at the start. The walk ends also when an
action fails. -/
def foreach (action : String → Value → Act (Parameters × σ) Unit) : Act (Parameters × σ) Unit :=
  .of fun (p, s) =>
    let (result, q, s) := (visit action p.values.entries).on ({ p with walks := p.walks + 1 }, s)
    (result, { q with walks := q.walks - 1 }, s)

/-- Fixes up the parameters that an act works on. -/
def fixupAct (placeholder literal : Option String) : Act (Parameters × σ) Unit :=
  .of fun (p, s) =>
    match p.fixup placeholder literal with
    | .ok q => (.ok (), q, s)
    | .error e => (.error e, p, s)

end Parameters

end ChatCommands
