import ChatCommands.Converter
import ChatCommands.Usage.Tree

/-!
# Registered converters

Converters are registered for type names and for a class of messages. For a type and a message the
one converter of the host that applies is chosen, or else the one built in that applies; several are
ambiguous. The host may register one converter for a type and a class.

Answers are remembered until the next registration.
-/

namespace ChatCommands

/-- A converter as registered for one type name. -/
structure Registration where
  type : String
  messageClass : MessageClass
  converter : Converter
  isBuiltIn : Bool
  deriving DecidableEq

/-- The registered converters, in order, with the answers given since the last registration. -/
structure Converters where
  entries : List Registration
  remembered : Table (String × MessageClass) Converter

namespace Converters

/-- No converters. -/
def empty : Converters := ⟨[], .empty⟩

/-! ### Choice -/

/-- The entries of a type that serve messages of a class: those of the host if there are any. -/
def candidates (entries : List Registration) (type : String) (cls : MessageClass) :
    List Registration :=
  let serving := entries.filter fun e => e.type = type && cls.isBelow e.messageClass
  match serving.filter (!·.isBuiltIn) with
  | [] => serving
  | own => own

/-- The options of a fault about a type in a usage. -/
def choiceOptions (type : String) (usage : Value) : List (String × Value) :=
  [("parameter_type", .text type), ("usage", usage)]

/-- The converter of a type for messages of a class; `usage` is where the type was named. -/
def choose (entries : List Registration) (type : String) (cls : MessageClass) (usage : Value) :
    Except Error Converter :=
  match candidates entries type cls with
  | [e] => .ok e.converter
  | [] =>
    .error (.fault (.make .missingConverter
      ("Parameter type '" ++ type ++ "' in usage string '" ++ usage.plain ++ "' was not found")
      (choiceOptions type usage)))
  | _ =>
    .error (.fault (.make .ambiguousConverter
      ("Multiple converters found for parameter type '" ++ type ++ "' in usage string '" ++
        usage.plain ++ "'")
      (choiceOptions type usage)))

/-- The converter of a type for a message. An answer is remembered, a failure is not. -/
def resolve (cs : Converters) (type : String) (message usage : Value) :
    Except Error Converter × Converters :=
  let key := (type, message.messageClass)
  match cs.remembered.get? key with
  | some c => (.ok c, cs)
  | none =>
    match choose cs.entries type message.messageClass usage with
    | .ok c => (.ok c, { cs with remembered := cs.remembered.set key c })
    | .error e => (.error e, cs)

/-- The type of each placeholder of a usage, left to right. -/
def typesOf (u : Usage) : List String :=
  u.placeholderNames.map fun name => (Converter.splitType name).2

/-- Checks that each placeholder of a usage has one converter for messages of a class. -/
def check (cs : Converters) (u : Usage) (cls : MessageClass) : Except Error Unit :=
  (typesOf u).forM fun type => (choose cs.entries type cls (.text u.source)).map fun _ => ()

/-! ### Registration -/

/-- What is handed over for registration; parts that do not fit are missing. -/
structure Request where
  converter : Option Converter
  types : List Value
  messageClass : Option MessageClass := some .object
  isBuiltIn : Bool := false

/-- The type names among values, if all of them are names. -/
def typeNames? : List Value → Option (List String)
  | [] => some []
  | .text s :: vs => (typeNames? vs).map (s :: ·)
  | _ :: _ => none

/-- Whether a type already has a converter of the host for a class. -/
def isTaken (entries : List Registration) (type : String) (cls : MessageClass) : Bool :=
  entries.any fun e => !e.isBuiltIn && e.type = type && e.messageClass = cls

/-- Registers a converter for type names. Two converters of the host for one type and one class are
refused, and then nothing is registered. -/
def register (cs : Converters) (r : Request) : Except Error Converters := do
  let some converter := r.converter | .error (.misuse .converterNotCallable)
  let some types := typeNames? r.types | .error (.misuse .noTypeNames)
  if types.isEmpty then .error (.misuse .noTypeNames)
  let some cls := r.messageClass | .error (.misuse .messageTypeNotClass)
  match types.find? fun type => !r.isBuiltIn && isTaken cs.entries type cls with
  | some type =>
    .error (.fault (.make .duplicateConverter
      ("Multiple converters registered for parameter type '" ++ type ++ "' and message type '" ++
        cls.name ++ "'") []))
  | none =>
    return ⟨cs.entries ++ types.map fun type => ⟨type, cls, converter, r.isBuiltIn⟩, .empty⟩

/-- The entries of the converters that are built in. -/
def builtInEntries : List Registration := [
  ⟨"number", .object, .number, true⟩, ⟨"integer", .object, .number, true⟩,
  ⟨"decimal", .object, .decimal, true⟩,
  ⟨"string", .object, .string, true⟩, ⟨"text", .object, .string, true⟩]

/-- The converters that are built in. -/
def builtIn : Converters := ⟨builtInEntries, .empty⟩

end Converters

end ChatCommands
