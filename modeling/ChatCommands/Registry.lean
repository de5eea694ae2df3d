import ChatCommands.Converters
import ChatCommands.Plugin
import ChatCommands.Text.Plural

/-!
# Registered commands

A registry maps aliases to commands. A command is registered under all its aliases or not at all.
The alias at the front of a message is the longest one that ends there at a blank or with the text.
It is found by a matcher, which is made anew from all aliases whenever a command is registered.
-/

namespace ChatCommands

/-! ### Aliases in messages -/

/-- What finds an alias at the front of a text: the aliases, in the order in which they are tried.
-/
structure Matcher where
  alternatives : List String

namespace Matcher

/-- The matcher that finds nothing. -/
def never : Matcher := ⟨[]⟩

/-- Whether one alias is tried before another: the longer one first. -/
def isTriedBefore (a b : String) : Bool := b.length < a.length || (a.length = b.length && a ≤ b)

/-- The matcher of several aliases. That of no aliases has one alternative, which is empty. -/
def ofAliases (words : List String) : Matcher :=
  match words.mergeSort isTriedBefore with
  | [] => ⟨[""]⟩
  | sorted => ⟨sorted⟩

/-- What follows an alias at the front of a text, if it ends there at a blank or with the text. -/
def after? (word : String) (cs : List Char) : Option (List Char) :=
  if word.toList.isPrefixOf cs then
    match cs.drop word.toList.length with
    | [] => some []
    | c :: rest => if Text.isBlank c then some (c :: rest) else none
  else none

/-- The alias that a text starts with and the parameter text that follows it. -/
def find? (m : Matcher) (text : String) : Option (String × String) :=
  let cs := Text.trim text.toList
  m.alternatives.findSome? fun word =>
    (after? word cs).map fun rest => (word, String.ofList (Text.trimStart rest))

end Matcher

/-! ### Registries -/

/-- Commands by their aliases, and the matcher of the aliases. With converters, the usages of
commands are checked for messages of a class when commands are registered. -/
structure Registry where
  commands : Table String Command
  matcher : Matcher
  converters : Option Converters
  messageClass : MessageClass

namespace Registry

/-- A registry without commands. -/
def start (converters : Option Converters) (messageClass : MessageClass) : Registry :=
  ⟨.empty, .never, converters, messageClass⟩

instance : Inhabited Registry := ⟨start none .object⟩

/-! ### Look-up -/

/-- The aliases, in order. -/
def aliases (r : Registry) : List String := r.commands.keys

/-- The command of an alias. -/
def get? (r : Registry) (word : String) : Option Command := r.commands.get? word

/-- The command of an alias, which has to be there. -/
def item (r : Registry) (word : String) : Except Error Command :=
  match r.get? word with
  | some c => .ok c
  | none => .error (.bare .missingKey)

/-- Whether a command is registered. -/
def contains (r : Registry) (c : Command) : Bool := r.commands.values.any (· == c)

/-- The commands, each once, in the order of their first aliases. -/
def distinct (r : Registry) : List Command :=
  r.commands.values.foldl (fun kept c => if kept.any (· == c) then kept else kept ++ [c]) []

/-- The number of commands. -/
def size (r : Registry) : Nat := r.distinct.length

/-- The alias that a text starts with and the parameter text that follows it. -/
def match? (r : Registry) (text : String) : Option (String × String) := r.matcher.find? text

/-! ### Registration -/

variable {σ : Type} [Journal σ]

/-- An alias that belongs to another command. -/
def duplicateAlias (other c : Command) (word : String) : Error :=
  .fault (.make .duplicateAlias
    ("The same alias was defined for the two commands '" ++ other.shown ++ "' and '" ++ c.shown ++
      "'") [("alias", .text word)])

/-- Puts a command under several aliases. -/
def claim (c : Command) (commands : Table String Command) :
    List String → Except Error (Table String Command)
  | [] => .ok commands
  | word :: rest =>
    match commands.get? word with
    | some other =>
      if other == c then claim c (commands.set word c) rest
      else .error (duplicateAlias other c word)
    | none => claim c (commands.set word c) rest

/-- Checks the usage of a command for missing and ambiguous converters. -/
def check (r : Registry) (u : Usage) : Except Error Unit :=
  match r.converters with
  | some converters => converters.check u r.messageClass
  | none => .ok ()

/-- Registers a command under all of its aliases. If that fails nothing changes. -/
def add (command : Option Command) : Act (Registry × σ) Unit := do
  let some c := command | Act.fail (.misuse .notACommand)
  let (r, _) ← get
  if let some u ← Usage.loadIfAny (.ofText? c.usage) then Act.ofExcept (r.check u)
  let commands ← Act.ofExcept (claim c r.commands c.aliases)
  modify fun (r, s) => ({ r with commands }, s)
  modify fun (r, s) => ({ r with matcher := .ofAliases r.aliases }, s)
  Act.note .commands .debug ("Registered command " ++ c.shown)

/-- Registers those of several commands that are not registered, one after another. -/
def addMissing : List Command → Act (Registry × σ) Unit
  | [] => return
  | c :: cs => do
    let (r, _) ← get
    if !r.contains c then add (some c)
    addMissing cs

/-- Finds commands and registers those that are not registered. The commands that were registered
before one that fails stay. -/
def addFound (find : Act σ (List Command)) (source : Value) :
    Act (Registry × σ) (List Command) := do
  let found ← Act.beside find
  addMissing found
  Act.note .commands .info
    ("Got " ++ countedNat "command" found.length ++ " from " ++ source.shown)
  return found

/-- Registers the commands of the modules that a glob stands for. -/
def discover [Glob.CharNames] (tree : List (Plugin.Module σ)) (source : Value) :
    Act (Registry × Plugin.Workspace × σ) (List Command) :=
  addFound (Plugin.commands tree source) source

/-- A registry of several commands. -/
def ofList (start : Registry) (commands : List Command) : Act σ Registry :=
  .of fun s =>
    let (result, r, s) := (commands.forM fun c => add (some c)).on (start, s)
    (result.map fun _ => r, s)

end Registry

end ChatCommands
