import ChatCommands.Command.Alias
import ChatCommands.Context
import ChatCommands.Restriction.Chain
import ChatCommands.Text.Summary
import ChatCommands.Usage.Load

/-!
# Commands

A command is what users run: its aliases, its usage and the chain of its restrictions. Commands are
made from callbacks of the host, or are instances of classes, which inherit from each other. What a
command does is up to the host, who knows it by the name of the callback. So is what the constructor
of a class makes of a new instance.
-/

namespace ChatCommands

/-- A command. Two commands are the same when they have the same number. -/
structure Command where
  id : Nat
  /-- The name by which the host knows what the command does. -/
  callback : String
  /-- What the command is called in messages. -/
  label : String
  aliases : List String
  description : Value
  usage : Option String
  asynchronous : Value
  chain : Chain

namespace Command

instance : BEq Command := ⟨fun c d => c.id == d.id⟩

/-- A command in messages. -/
def shown (c : Command) : String := "<" ++ c.label ++ " aliases=" ++ tupleText c.aliases ++ ">"

instance : Shown Command := ⟨shown⟩

/-- Whether a command runs beside the handler. -/
def isAsynchronous (c : Command) : Bool := c.asynchronous.truthy

/-- The description that a documentation text gives. -/
def summary (doc : Option String) : Value := .ofText? (doc.bind Text.summary?)

variable {σ : Type} [Journal σ]

/-! ### Commands from callbacks -/

/-- A callback of the host. One without a name, such as an object that can be called, has a label
only. -/
structure Callback where
  id : String
  name : Option String
  label : String
  doc : Option String

/-- What is given with a callback. What is not given is derived from the callback. -/
structure Options where
  aliases : Option Value := none
  description : Option Value := none
  usage : Value := .null
  asynchronous : Value := .bool false
  restrictions : List Chain.Operand := []
  policy : PolicyChoice := .unspecified

/-- The aliases of a callback. -/
def callbackAliases (c : Callback) (given : Option Value) : Except Error (List String) :=
  match given, c.name with
  | some v, _ => Alias.read c.label v
  | none, some name => Alias.read c.label (.text (Alias.ofName name))
  | none, none => .error (.misuse (.unnamedWithoutAliases c.label))

/-- The command of a callback; what cannot be called makes no command. -/
def ofCallback (id : Nat) (callback : Option Callback) (o : Options) : Act σ Command := do
  let some c := callback | Act.fail (.misuse .commandNotCallable)
  let aliases ← Act.ofExcept (callbackAliases c o.aliases)
  let usage ← Usage.loadIfAny o.usage
  let chain ← Act.ofExcept (Chain.ofOperands o.restrictions o.policy)
  let derived := if c.name.isSome then summary c.doc else .null
  return {
    id, aliases, chain
    callback := c.id
    label := "command " ++ c.label
    description := o.description.getD derived
    usage := usage.map (·.source)
    asynchronous := o.asynchronous }

end Command

/-! ### Classes of commands -/

/-- A class of commands. A class without a callback has no instances. The constructor may give an
instance other attributes than those of its class, or fail. -/
structure CommandClass where
  name : String
  aliases : List String
  description : Value
  usage : Value
  asynchronous : Value
  restrictions : List Chain.Operand
  policy : PolicyChoice
  chain : Chain
  callback : Option String
  init : Command → Except Error Command := .ok

namespace CommandClass

/-- The class above all others. -/
def root : CommandClass where
  name := "Command"
  aliases := []
  description := .null
  usage := .null
  asynchronous := .bool false
  restrictions := []
  policy := .unspecified
  chain := .everyone
  callback := none

instance : Inhabited CommandClass := ⟨root⟩

/-- What a class says of itself; the rest it inherits, aliases and description apart. -/
structure Attributes where
  aliases : Option Value := none
  description : Option Value := none
  doc : Option String := none
  usage : Option Value := none
  asynchronous : Option Value := none
  restrictions : Option (List Chain.Operand) := none
  policy : Option PolicyChoice := none
  callback : Option String := none
  init : Option (Command → Except Error Command) := none

variable {σ : Type} [Journal σ]

/-- The class of a name below another class. -/
def define (base : CommandClass) (name : String) (a : Attributes) : Act σ CommandClass := do
  let aliases ← Act.ofExcept
    (match a.aliases with
    | some v => Alias.read name v
    | none => .ok [Alias.ofName name])
  let usage := a.usage.getD base.usage
  let _ ← Usage.loadIfAny usage
  let restrictions := a.restrictions.getD base.restrictions
  let policy := a.policy.getD base.policy
  let chain ← Act.ofExcept (Chain.ofOperands restrictions policy)
  return {
    name, aliases, usage, restrictions, policy, chain
    description := a.description.getD (Command.summary a.doc)
    asynchronous := a.asynchronous.getD base.asynchronous
    callback := a.callback <|> base.callback
    init := a.init.getD base.init }

/-- An instance of a class; a class that does nothing has none. What the constructor makes of it
stays this instance of this class. -/
def instantiate (c : CommandClass) (id : Nat) : Except Error Command :=
  match c.callback with
  | none => .error (.bare .unusable)
  | some callback => do
    let made ← c.init {
      id, callback
      label := c.name
      aliases := c.aliases
      description := c.description
      usage := match c.usage with
        | .text s => some s
        | _ => none
      asynchronous := c.asynchronous
      chain := c.chain }
    return { made with id, callback, label := c.name }

end CommandClass

end ChatCommands
