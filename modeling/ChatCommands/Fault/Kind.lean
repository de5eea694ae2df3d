import ChatCommands.Fault.Code

/-!
# Kinds of faults

Every fault is of a kind, and kinds stand below others: what is true of a failed parameter parse is
true of an invalid format. A kind brings a code and a title, which a single fault may override.
-/

namespace ChatCommands

/-- The kinds of errors and warnings. -/
inductive FaultKind
  | command
  | usageSyntax
  | parameterParse
  | invalidFormat
  | invalidValue
  | converterConfiguration
  | missingConverter
  | ambiguousConverter
  | duplicateConverter
  | duplicateAlias
  | duplicateInterceptor
  | restrictionPolicy
  | unknownRestriction
  | warning
  | emptyPrefixWarning
  deriving DecidableEq, Repr

namespace FaultKind

/-- All kinds. -/
def all : List FaultKind := [
  command, usageSyntax, parameterParse, invalidFormat, invalidValue, converterConfiguration,
  missingConverter, ambiguousConverter, duplicateConverter, duplicateAlias, duplicateInterceptor,
  restrictionPolicy, unknownRestriction, warning, emptyPrefixWarning]

/-- The public name of a kind. -/
def name : FaultKind → String
  | command => "CommandFault"
  | usageSyntax => "UsageSyntaxError"
  | parameterParse => "ParameterParseError"
  | invalidFormat => "InvalidParameterFormatError"
  | invalidValue => "InvalidParameterValueError"
  | converterConfiguration => "ConverterConfigurationError"
  | missingConverter => "MissingConverterError"
  | ambiguousConverter => "AmbiguousConverterError"
  | duplicateConverter => "DuplicateConverterError"
  | duplicateAlias => "DuplicateAliasError"
  | duplicateInterceptor => "DuplicateInterceptorError"
  | restrictionPolicy => "RestrictionPolicyError"
  | unknownRestriction => "UnknownRestrictionError"
  | warning => "CommandWarning"
  | emptyPrefixWarning => "EmptyPrefixWarning"

/-- The kind of a public name. -/
def ofName? (s : String) : Option FaultKind := all.find? (·.name = s)

/-- The kind that a kind stands directly below. -/
def parent? : FaultKind → Option FaultKind
  | command | warning => none
  | usageSyntax | parameterParse | converterConfiguration | duplicateAlias | duplicateInterceptor
  | restrictionPolicy | unknownRestriction => some command
  | invalidFormat | invalidValue => some parameterParse
  | missingConverter | ambiguousConverter | duplicateConverter => some converterConfiguration
  | emptyPrefixWarning => some warning

/-- A kind and the kinds above it, nearest first. -/
def lineage (k : FaultKind) : List FaultKind :=
  match k.parent? with
  | none => [k]
  | some p =>
    match p.parent? with
    | none => [k, p]
    | some q => [k, p, q]

/-- Whether faults of kind `k` are also of kind `l`. -/
def isBelow (k l : FaultKind) : Bool := k.lineage.contains l

/-- Whether faults of a kind only warn. -/
def isWarning (k : FaultKind) : Bool := k.isBelow warning

/-- The code of a kind; the two most general kinds have none. -/
def code? : FaultKind → Option FaultCode
  | command | warning => none
  | usageSyntax => some .unexpectedToken
  | parameterParse => some .wrongArguments
  | invalidFormat => some .invalidFormat
  | invalidValue => some .invalidValue
  | converterConfiguration | missingConverter => some .missingConverter
  | ambiguousConverter => some .ambiguousConverter
  | duplicateConverter => some .duplicateConverter
  | duplicateAlias => some .duplicateAlias
  | duplicateInterceptor => some .duplicateInterceptor
  | restrictionPolicy => some .restrictionPolicy
  | unknownRestriction => some .unknownRestriction
  | emptyPrefixWarning => some .emptyPrefix

/-- The title of a kind. -/
def title : FaultKind → String
  | command | warning => "fault"
  | usageSyntax => "invalid usage"
  | parameterParse => "wrong arguments"
  | invalidFormat => "invalid format"
  | invalidValue => "invalid value"
  | converterConfiguration | missingConverter | ambiguousConverter | duplicateConverter =>
    "converter configuration"
  | duplicateAlias => "duplicate alias"
  | duplicateInterceptor => "duplicate interceptor"
  | restrictionPolicy => "restriction policy"
  | unknownRestriction => "unknown restriction"
  | emptyPrefixWarning => "empty prefix"

/-- The options that faults of a kind show as properties. -/
def properties (k : FaultKind) : List String :=
  if k.isBelow usageSyntax then ["usage", "position", "token"]
  else if k.isBelow parameterParse then ["parameter_name", "parameter_value"]
  else []

@[simp] theorem isBelow_refl (k : FaultKind) : k.isBelow k = true := by cases k <;> rfl

end FaultKind

end ChatCommands
