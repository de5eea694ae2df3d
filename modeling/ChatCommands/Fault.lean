import ChatCommands.Fault.Kind
import ChatCommands.Misuse
import ChatCommands.Table

/-!
# Faults and other errors

A fault is an error or a warning of this library: a kind, a message and read-only options. The host
may derive classes of faults from the kinds. What a computation may end with instead of a value is
an `Error`: a fault, a refused call, a failure that explains itself by its class, or a failure of
the host's own code. -/

namespace ChatCommands

/-- The class of an error, by which handlers tell errors apart. -/
inductive ErrorClass
  | fault (k : FaultKind)
  | misuse (c : MisuseClass)
  /-- A look-up of a key that is not there. -/
  | missingKey
  /-- A look-up of an attribute that an object does not have. -/
  | missingAttribute
  /-- A number beyond the limits of exact arithmetic. -/
  | outOfRange
  /-- A number of more digits than are read. -/
  | tooManyDigits
  /-- A number that a machine word does not hold. -/
  | tooLarge
  /-- An argument of a fitting kind that cannot be used. -/
  | badValue
  /-- A character class that is no set of characters. -/
  | badPattern
  /-- An argument that cannot be used at all. -/
  | unusable
  /-- A module that is not there. -/
  | missingModule
  /-- A class of the host. -/
  | foreign (name : String)
  deriving DecidableEq, Repr

/-- A class of faults that the host derives from a kind. Its constructor may keep a message and
options other than those it is given, or fail with an error of the host, of a class and with a
message. -/
structure DerivedClass where
  name : String
  code : Option Value := none
  title : Option Value := none
  construct : Option String → Table String Value →
    Except (String × Option String) (Option String × Table String Value) :=
      fun message options => .ok (message, options)

/-- An error or a warning of the library, or of a class that the host derives from its kind. -/
structure Fault where
  kind : FaultKind
  message : Option String
  options : Table String Value
  /-- The class of the error that led to this one. -/
  cause : Option ErrorClass
  derived : Option DerivedClass := none

namespace Fault

/-- The fault of a kind with a message and options. -/
def make (k : FaultKind) (message : String) (options : List (String × Value)) : Fault :=
  ⟨k, some message, .ofList options, none, none⟩

/-- An option of a fault. -/
def option? (f : Fault) (name : String) : Option Value := f.options.get? name

/-- The code of a fault: its own, or that of its class. -/
def code (f : Fault) : Value :=
  (f.option? "code" <|> f.derived.bind (·.code)).getD (f.kind.code?.elim .unset .code)

/-- The title of a fault: its own, or that of its class. -/
def title (f : Fault) : Value :=
  (f.option? "title" <|> f.derived.bind (·.title)).getD (.text f.kind.title)

/-- What a fault says: its message, or its title when it has none. -/
def text (f : Fault) : String := f.message.getD f.title.plain

/-- What the class of a fault makes of a message and options. -/
def construct (f : Fault) (message : Option String) (options : Table String Value) :
    Except (String × Option String) (Option String × Table String Value) :=
  match f.derived with
  | none => .ok (message, options)
  | some d => d.construct message options

/-- The properties of a fault: the options its kind names, or nothing. -/
def properties (f : Fault) : List (String × Value) :=
  f.kind.properties.map fun name => (name, (f.option? name).getD .null)

/-- The parts of a fault that its construction was given. -/
def arguments (f : Fault) : List String := f.message.toList

end Fault

/-- What a computation may end with instead of a value. -/
inductive Error
  | fault (f : Fault)
  | misuse (m : Misuse)
  | bare (c : ErrorClass)
  | foreign (name : String) (message : Option String)

namespace Error

/-- The class of an error. -/
def cls : Error → ErrorClass
  | fault f => f.derived.elim (.fault f.kind) fun d => .foreign d.name
  | misuse m => .misuse m.cls
  | bare c => c
  | foreign name _ => .foreign name

/-- A failure of a parameter to parse, if the error is one. -/
def parameterFault? : Error → Option Fault
  | fault f => if f.kind.isBelow .parameterParse then some f else none
  | _ => none

end Error

namespace Fault

/-- The fault made anew by its class with further options set. Kind and cause stay. -/
def replace (f : Fault) (options : Table String Value) : Except Error Fault :=
  match f.construct f.message (f.options.merge options) with
  | .ok (message, options) => .ok { f with message, options }
  | .error (name, message) => .error (.foreign name message)

/-- A fault built from a message that may be any value, or its refusal. -/
def ofValue (k : FaultKind) (message : Value) (options : Table String Value) :
    Except Error Fault :=
  match message with
  | .text s => .ok ⟨k, some s, options, none, none⟩
  | .unset => .ok ⟨k, none, options, none, none⟩
  | _ => .error (.misuse (.messageNotText k.name))

end Fault

end ChatCommands
