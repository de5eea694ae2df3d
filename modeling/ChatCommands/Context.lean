import ChatCommands.Fault
import ChatCommands.Value.Shown

/-!
# Contexts

A context carries a message through resolution. It starts with the message and its text and is
refined step by step by the prefix, the alias, the parameter text and the command. Additional data
is free for the host to pass information along. No operation changes a context, each makes a new
one.
-/

namespace ChatCommands

/-- Commands and whatever else a context may carry have a text of their own. -/
class Shown (κ : Type) where
  shown : κ → String

instance : Shown Value := ⟨Value.shown⟩

/-- A message with what is known about it. -/
structure Context (κ : Type) where
  message : Value
  content : String
  commandPrefix : Option String := none
  commandAlias : Option String := none
  parameterString : Option String := none
  command : Option κ := none
  data : Table Value Value := .empty

/-- An optional text as a value. -/
def Value.ofText? (s : Option String) : Value := s.elim .null .text

/-- The table of a list of pairs, if all keys can be keys. -/
def Value.table (es : List (Value × Value)) : Except Error (Table Value Value) :=
  if es.all (·.1.isKey) then .ok (.ofList es) else .error (.bare .unusable)

namespace Context

variable {κ : Type}

/-! ### Reading the parts of a context -/

/-- A message, which has to be there. -/
def readMessage (v : Value) : Except Error Value :=
  match v with
  | .null => .error (.misuse .messageMissing)
  | v => .ok v

/-- The text of a message, which has to be a text. -/
def readContent (v : Value) : Except Error String :=
  match v with
  | .text s => .ok s
  | _ => .error (.misuse .contentNotText)

/-- A part of a context that is a text or nothing. -/
def readText (place : ContextText) (v : Value) : Except Error (Option String) :=
  match v with
  | .null => .ok none
  | .text s => .ok (some s)
  | _ => .error (.misuse (.contextTextNotText place))

/-- Additional data: a map, or anything that counts as empty. -/
def readData (v : Value) : Except Error (Table Value Value) :=
  match v with
  | .map es => Value.table es
  | v => if v.truthy then .error (.bare .unusable) else .ok .empty

/-- The context of parts that may be any values; the first that does not fit is refused. -/
def make (message content commandPrefix commandAlias parameterString : Value) (command : Option κ)
    (data : Value) : Except Error (Context κ) := do
  let message ← readMessage message
  let content ← readContent content
  let commandPrefix ← readText .commandPrefix commandPrefix
  let commandAlias ← readText .commandAlias commandAlias
  let parameterString ← readText .parameterString parameterString
  let data ← readData data
  return { message, content, commandPrefix, commandAlias, parameterString, command, data }

/-! ### New contexts from old ones -/

/-- The context with another message. -/
def withMessage (c : Context κ) (v : Value) : Except Error (Context κ) :=
  (readMessage v).map fun message => { c with message }

/-- The context with another text of the message. -/
def withContent (c : Context κ) (v : Value) : Except Error (Context κ) :=
  (readContent v).map fun content => { c with content }

/-- The context with a prefix, or without one. -/
def withPrefix (c : Context κ) (v : Value) : Except Error (Context κ) :=
  (readText .commandPrefix v).map fun commandPrefix => { c with commandPrefix }

/-- The context with an alias, or without one. -/
def withAlias (c : Context κ) (v : Value) : Except Error (Context κ) :=
  (readText .commandAlias v).map fun commandAlias => { c with commandAlias }

/-- The context with a parameter text, or without one. -/
def withParameterString (c : Context κ) (v : Value) : Except Error (Context κ) :=
  (readText .parameterString v).map fun parameterString => { c with parameterString }

/-- The context with a command, or without one. -/
def withCommand (c : Context κ) (command : Option κ) : Context κ := { c with command }

/-- The context with one more piece of data. -/
def withData (c : Context κ) (key value : Value) : Except Error (Context κ) :=
  if key.isKey then .ok { c with data := c.data.set key value } else .error (.bare .unusable)

/-- The context without one piece of data, or without any when no key is given. -/
def withoutData (c : Context κ) (key : Value) : Context κ :=
  match key with
  | .unset => { c with data := .empty }
  | key => { c with data := c.data.erase key }

/-- A piece of data, or a default. -/
def getData (c : Context κ) (key default : Value) : Except Error Value :=
  if key.isKey then .ok ((c.data.get? key).getD default) else .error (.bare .unusable)

/-! ### Contexts as values -/

/-- The names of the parts of a context. -/
def fieldNames : List String :=
  ["message", "message_content", "prefix", "alias", "parameter_string", "command",
    "additional_data"]

/-- The parts of a context whose command is a value, by their names. -/
def fields (c : Context Value) : Table String Value :=
  ⟨fieldNames.zip [c.message, .text c.content, .ofText? c.commandPrefix, .ofText? c.commandAlias,
    .ofText? c.parameterString, c.command.getD .null, .map c.data.entries]⟩

/-- A command that is a value: nothing is no command. -/
def readCommand (v : Value) : Option Value :=
  match v with
  | .null => none
  | v => some v

/-- The context of a table of parts. -/
def ofFields (t : Table String Value) : Except Error (Context Value) :=
  let part name := (t.get? name).getD .null
  make (part "message") (part "message_content") (part "prefix") (part "alias")
    (part "parameter_string") (readCommand (part "command")) (part "additional_data")

/-- The context with several parts changed, by their names. -/
def replace (c : Context Value) (changes : Table String Value) : Except Error (Context Value) :=
  match changes.keys.filter (!fieldNames.contains ·) with
  | [] => ofFields (c.fields.merge changes)
  | unknown => .error (.misuse (.unknownFields (unknown.mergeSort (· ≤ ·))))

/-- Contexts do not change: no part of one can be written. -/
def assign (_ : Context κ) (_ : String) (_ : Value) : Except Error (Context κ) :=
  .error (.misuse (.immutable "CommandContext"))

/-- The data of a context cannot be written. -/
def writeData (_ : Context κ) (_ _ : Value) : Except Error (Context κ) := .error (.bare .unusable)

/-- Whether two contexts are equal part by part. -/
def same [BEq κ] (c d : Context κ) : Bool :=
  c.message == d.message && c.content == d.content && c.commandPrefix == d.commandPrefix &&
    c.commandAlias == d.commandAlias && c.parameterString == d.parameterString &&
    c.command == d.command && c.data.agrees d.data

instance [BEq κ] : BEq (Context κ) := ⟨same⟩

/-- A context as it would be written in a program. -/
def shown [Shown κ] (c : Context κ) : String :=
  "CommandContext(message=" ++ c.message.shown ++ ", message_content=" ++ quoted c.content ++
    ", prefix=" ++ (Value.ofText? c.commandPrefix).shown ++
    ", alias=" ++ (Value.ofText? c.commandAlias).shown ++
    ", parameter_string=" ++ (Value.ofText? c.parameterString).shown ++
    ", command=" ++ c.command.elim "None" Shown.shown ++
    ", additional_data=" ++ (Value.map c.data.entries).shown ++ ")"

/-- The parts of a context with their defaults, where they have one. -/
def outline (c : Context Value) : List (String × Value × Option Value) :=
  c.fields.entries.map fun (name, v) =>
    (name, v,
      if name = "message" ∨ name = "message_content" then none
      else if name = "additional_data" then some (.map [])
      else some .null)

end Context

end ChatCommands
