import ChatCommands.Context
import ChatCommands.Journal

/-!
# Converters

A converter turns the text of a parameter into a value. Three converters are built in: for integers,
for decimals and for texts; the others belong to the host. A placeholder names the type of its value
after its last colon.
-/

namespace ChatCommands

/-- A converter: one that is built in, or one of the host. -/
inductive Converter
  | number
  | decimal
  | string
  /-- A converter of the host, with its text in messages. -/
  | host (name shown : String)
  deriving DecidableEq, Repr

namespace Converter

/-- The public name of a converter. -/
def name : Converter → String
  | number => "convert_number"
  | decimal => "convert_decimal"
  | string => "convert_string"
  | host name _ => name

/-- A converter in messages. -/
def shown : Converter → String
  | host _ shown => shown
  | c => "<function " ++ c.name ++ ">"

/-- The most digits that an integer may have. -/
def maxDigits : Nat := 4300

/-- The integer that a text denotes. -/
def readNumber (text : String) : Except Error Value :=
  match Decimal.readInteger? text.toList with
  | none =>
    .error (.fault (.make .invalidFormat ("'" ++ text ++ "' is not a valid number") []))
  | some i =>
    if maxDigits < (Decimal.splitSign text.toList).2.length then .error (.bare .tooManyDigits)
    else .ok (.int i)

/-- The decimal that a text denotes. -/
def readDecimal (text : String) : Except Error Value :=
  match Decimal.read? text.toList with
  | none =>
    .error (.fault (.make .invalidFormat ("'" ++ text ++ "' is not a valid decimal") []))
  | some d => if d.inRange then .ok (.decimal d) else .error (.bare .outOfRange)

/-- What the host's converters do with a text, a type and a context. -/
abbrev HostConversion (κ σ : Type) :=
  (name : String) → (text type : String) → Context κ → Act σ Value

/-- What a converter does with a text, a type and a context. -/
def convert {κ σ : Type} (host : HostConversion κ σ) (c : Converter) (text type : String)
    (context : Context κ) : Act σ Value :=
  match c with
  | .number => .ofExcept (readNumber text)
  | .decimal => .ofExcept (readDecimal text)
  | .string => .ofExcept (.ok (.text text))
  | .host name _ => host name text type context

/-! ### Types of placeholders -/

/-- The type of a placeholder that names none. -/
def defaultType : String := "string"

/-- The parts of a text before and after its last colon. -/
def splitLastColon? : List Char → Option (List Char × List Char)
  | [] => none
  | c :: cs =>
    match splitLastColon? cs with
    | some (head, tail) => some (c :: head, tail)
    | none => if c = ':' then some ([], cs) else none

/-- The name and the type that the name of a placeholder gives. -/
def splitType (name : String) : String × String :=
  match splitLastColon? name.toList with
  | some (head, type) => (String.ofList head, String.ofList type)
  | none => (name, defaultType)

end Converter

end ChatCommands
