import ChatCommands.Converters
import ChatCommands.Parameters
import ChatCommands.Pattern.Cache
import ChatCommands.Usage.Load

/-!
# Parsers of parameters

A parser matches the parameter text of a context against a usage and collects what the slots
captured. An untyped parser keeps the captured texts; a typed one converts the values of
placeholders by their types. Usages that were read and patterns that were compiled are kept.
-/

namespace ChatCommands

/-- A parser with the usages it has read and the patterns of those it has compiled. Only a typed
parser has converters. -/
structure Parser where
  trees : Table String Tree
  patterns : Pattern.Cache
  converters : Option Converters

namespace Parser

/-- A new parser that keeps the captured texts. -/
def untyped : Parser := ⟨.empty, .empty, none⟩

/-- A new parser that converts the captured texts. -/
def typed (converters : Converters) : Parser := ⟨.empty, .empty, some converters⟩

instance : Inhabited Parser := ⟨untyped⟩

/-- Registers a converter with a typed parser. -/
def register (p : Parser) (r : Converters.Request) : Except Error Parser :=
  match p.converters with
  | some cs => (cs.register r).map fun cs => { p with converters := some cs }
  | none => .ok p

variable {κ σ : Type} [Journal σ]

/-! ### Faults of parsing -/

/-- Arguments for a command that has no usage. -/
def unexpectedArguments (command : String) : Error :=
  .fault (.make .parameterParse ("Command `" ++ command ++ "` does not expect arguments")
    [("code", .code .unexpectedArguments)])

/-- Arguments that do not fit the usage. -/
def wrongArguments (command usage : String) : Error :=
  .fault (.make .parameterParse
    ("Wrong arguments for command `" ++ command ++ "`\nUsage: `" ++ command ++ " " ++ usage ++ "`")
    [("usage", .text usage)])

/-- The fault of a converter that failed on a parameter. A failure to parse is made anew by its
class with the parameter among its options; any other error becomes one. -/
def conversionFailure (name value : String) (e : Error) : Error :=
  let about : Table String Value :=
    .ofList [("parameter_name", .text name), ("parameter_value", .text value)]
  match e.parameterFault? with
  | some f =>
    match f.replace about with
    | .ok remade => .fault { remade with cause := some e.cls }
    | .error failure => failure
  | none =>
    .fault ⟨.parameterParse,
      some
        ("Exception during conversion of value '" ++ value ++ "' for parameter '" ++ name ++ "'"),
      (Table.ofList [("code", .code .conversionFailed)]).merge about, some e.cls, none⟩

/-! ### Usages -/

/-- The tree of a usage: the one read before, or a new one. -/
def tree (usage : Value) : Act (Parser × σ) Tree := do
  if !usage.isKey then Act.fail (.bare .unusable)
  match usage with
  | .text source =>
    let (parser, _) ← get
    match parser.trees.get? source with
    | some tree => return tree
    | none => read usage
  | usage => read usage
where
  /-- Reads a usage and keeps its tree. -/
  read (usage : Value) : Act (Parser × σ) Tree := do
    let parsed ← Usage.load usage
    modifyGet fun (parser, s) =>
      let (tree, patterns) := parser.patterns.newTree parsed
      (tree, { parser with trees := parser.trees.set parsed.source tree, patterns }, s)

/-- The pattern of a tree: the one compiled before, or a new one. -/
def pattern (t : Tree) : Act (Parser × σ) Pattern := do
  let (parser, s) ← get
  let (compiled, patterns) := parser.patterns.compile t
  set ({ parser with patterns }, s)
  if patterns.nextPattern ≠ parser.patterns.nextPattern then
    Act.note .patterns .debug
      ("Compiled usage " ++ quoted compiled.pattern.usage ++ " to pattern " ++
        quoted compiled.pattern.regex)
  return compiled.pattern

/-! ### Values of captures -/

/-- The converter of a type for a message. -/
def resolve (type : String) (message usage : Value) : Act (Parser × σ) Converter :=
  .of fun (parser, s) =>
    let (result, converters) := (parser.converters.getD .empty).resolve type message usage
    (result, { parser with converters := some converters }, s)

/-- The name and the value that a capture gives when values are converted. -/
def typedPair (host : Converter.HostConversion κ σ) (context : Context κ) (usage : Value)
    (c : Pattern.Capture) : Act (Parser × σ) (String × Value) := do
  if c.slot.isLiteral then return (c.slot.name, .text c.text)
  let (name, type) := Converter.splitType c.slot.name
  let converter ← resolve type context.message usage
  match ← Act.beside (converter.convert host c.text type context).attempt with
  | .error e => Act.fail (conversionFailure name c.text e)
  | .ok .null => Act.fail (.misuse (.convertedToNothing converter.shown name))
  | .ok v => return (name, v)

/-- The names and values that captures give when values are converted, left to right. -/
def typedPairs (host : Converter.HostConversion κ σ) (context : Context κ) (usage : Value) :
    List Pattern.Capture → Act (Parser × σ) (List (String × Value))
  | [] => return []
  | c :: cs => do
    let pair ← typedPair host context usage c
    return pair :: (← typedPairs host context usage cs)

/-- The name and the text of a capture. -/
def untypedPair (c : Pattern.Capture) : String × Value := (c.slot.name, .text c.text)

/-! ### Parsing -/

/-- What a user typed to run the command of a context. -/
def commandText (context : Context κ) : String :=
  context.commandPrefix.getD "" ++ context.commandAlias.getD ""

/-- Parses the parameter text of a context by a usage; with no usage, arguments are refused. -/
def parse (host : Converter.HostConversion κ σ) (context : Context κ) (usage : Value) :
    Act (Parser × σ) Parameters := do
  let text := context.parameterString.getD ""
  match usage with
  | .null =>
    if Text.allBlank text.toList then return .empty
    else Act.fail (unexpectedArguments (commandText context))
  | usage =>
    let tree ← tree usage
    let pattern ← pattern tree
    match pattern.captures? text with
    | none => Act.fail (wrongArguments (commandText context) tree.usage.source)
    | some captures =>
      let (parser, _) ← get
      if parser.converters.isSome then
        return .collect (← typedPairs host context usage captures)
      else return .collect (captures.map untypedPair)

end Parser

end ChatCommands
