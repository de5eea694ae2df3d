/-!
# Fault codes

Stable identifiers of everything that can go wrong, grouped by domain: the usage grammar (211xx),
parameters (212xx), configuration (213xx) and warnings (22xxx).
-/

namespace ChatCommands

/-- What went wrong. -/
inductive FaultCode
  | emptyUsage
  | unexpectedToken
  | unterminatedPlaceholder
  | unterminatedLiteral
  | unterminatedGroup
  | singleAlternative
  | emptyName
  | misplacedTrailingPlaceholder
  | unexpectedArguments
  | wrongArguments
  | invalidFormat
  | invalidValue
  | conversionFailed
  | missingConverter
  | ambiguousConverter
  | duplicateConverter
  | duplicateAlias
  | duplicateInterceptor
  | restrictionPolicy
  | unknownRestriction
  | emptyPrefix
  deriving DecidableEq, Repr

namespace FaultCode

/-- All codes, in the order of their numbers. -/
def all : List FaultCode := [
  emptyUsage, unexpectedToken, unterminatedPlaceholder, unterminatedLiteral, unterminatedGroup,
  singleAlternative, emptyName, misplacedTrailingPlaceholder, unexpectedArguments, wrongArguments,
  invalidFormat, invalidValue, conversionFailed, missingConverter, ambiguousConverter,
  duplicateConverter, duplicateAlias, duplicateInterceptor, restrictionPolicy, unknownRestriction,
  emptyPrefix]

/-- The name of a code. -/
def name : FaultCode → String
  | emptyUsage => "EMPTY_USAGE"
  | unexpectedToken => "UNEXPECTED_TOKEN"
  | unterminatedPlaceholder => "UNTERMINATED_PLACEHOLDER"
  | unterminatedLiteral => "UNTERMINATED_LITERAL"
  | unterminatedGroup => "UNTERMINATED_GROUP"
  | singleAlternative => "SINGLE_ALTERNATIVE"
  | emptyName => "EMPTY_NAME"
  | misplacedTrailingPlaceholder => "MISPLACED_TRAILING_PLACEHOLDER"
  | unexpectedArguments => "UNEXPECTED_ARGUMENTS"
  | wrongArguments => "WRONG_ARGUMENTS"
  | invalidFormat => "INVALID_FORMAT"
  | invalidValue => "INVALID_VALUE"
  | conversionFailed => "CONVERSION_FAILED"
  | missingConverter => "MISSING_CONVERTER"
  | ambiguousConverter => "AMBIGUOUS_CONVERTER"
  | duplicateConverter => "DUPLICATE_CONVERTER"
  | duplicateAlias => "DUPLICATE_ALIAS"
  | duplicateInterceptor => "DUPLICATE_INTERCEPTOR"
  | restrictionPolicy => "RESTRICTION_POLICY"
  | unknownRestriction => "UNKNOWN_RESTRICTION"
  | emptyPrefix => "EMPTY_PREFIX"

/-- The number of a code. -/
def number : FaultCode → Nat
  | emptyUsage => 21101
  | unexpectedToken => 21102
  | unterminatedPlaceholder => 21103
  | unterminatedLiteral => 21104
  | unterminatedGroup => 21105
  | singleAlternative => 21106
  | emptyName => 21107
  | misplacedTrailingPlaceholder => 21108
  | unexpectedArguments => 21201
  | wrongArguments => 21202
  | invalidFormat => 21203
  | invalidValue => 21204
  | conversionFailed => 21205
  | missingConverter => 21301
  | ambiguousConverter => 21302
  | duplicateConverter => 21303
  | duplicateAlias => 21304
  | duplicateInterceptor => 21305
  | restrictionPolicy => 21306
  | unknownRestriction => 21307
  | emptyPrefix => 22101

/-- The code of a name. -/
def ofName? (s : String) : Option FaultCode := all.find? (·.name = s)

end FaultCode

end ChatCommands
