import ChatCommands.Value.Shown

/-!
# Misuse of the library

Calls that the library refuses because of what it was handed, one constructor per cause, with the
wording in one place.
-/

namespace ChatCommands

/-- The places of a context that hold a text or nothing. -/
inductive ContextText
  | commandPrefix
  | commandAlias
  | parameterString
  deriving DecidableEq, Repr

/-- The name of a place of a context. -/
def ContextText.name : ContextText → String
  | commandPrefix => "prefix"
  | commandAlias => "alias"
  | parameterString => "parameter_string"

/-- How a call was wrong. -/
inductive MisuseClass
  /-- An argument of a kind that does not fit. -/
  | wrongType
  /-- An argument of a fitting kind that is refused. -/
  | wrongValue
  /-- A call at a time when it is refused. -/
  | wrongTime
  /-- A write to something that does not change. -/
  | immutable
  deriving DecidableEq, Repr

/-- A refused call. -/
inductive Misuse
  -- usages and patterns
  | usageNotText
  | notAUsage
  | unknownNode (shown : String)
  | immutable (object : String)
  -- faults
  | messageNotText (fault : String)
  | notTriggerable
  | notACode
  -- converters and parameters
  | converterNotCallable
  | noTypeNames
  | messageTypeNotClass
  | emptyParameter
  | fixupWhileIterating
  | convertedToNothing (converter name : String)
  -- contexts
  | messageMissing
  | contentNotText
  | contextTextNotText (place : ContextText)
  | unknownFields (names : List String)
  -- restrictions
  | aggregateOfOthers (aggregate : String)
  | notARestriction
  | notARestrictionClass
  | notAPolicy
  -- commands
  | aliasSourceNotText
  | emptyAliases (owner : String)
  | unnamedWithoutAliases (callback : String)
  | commandNotCallable
  | notACommand
  | sourceNotText
  | cannotImport (module : String)
  -- handlers
  | interceptorNotCallable
  | noPhases
  | prefixNotTextOrProvider
  | notAnEventType
  | interceptorResult (interceptor result : String)
  -- utilities
  | renameOfOther
  | renameToOther
  | renameFixed
  | renameDecoratorName
  | renameDecoratorTarget
  | renameCount (given : Nat)
  | wordNotText
  | splitOfOther
  | splitMaximumNotInteger
  | globNotText
  | globEmpty
  | globWithoutPackage
  deriving DecidableEq, Repr

namespace Misuse

/-- How a call was wrong. -/
def cls : Misuse → MisuseClass
  | fixupWhileIterating => .wrongTime
  | immutable _ => .immutable
  | globEmpty | globWithoutPackage => .wrongValue
  | _ => .wrongType

/-- The wording of a refusal. -/
def message : Misuse → String
  | usageNotText => "parse() argument must be a string"
  | notAUsage => "compile() argument must be a parsed usage"
  | unknownNode shown => "unexpected syntax node " ++ shown
  | immutable object => quoted object ++ " object is immutable"
  | messageNotText fault => fault ++ "() message must be a string"
  | notTriggerable => "trigger() argument must have a __trigger__ and __replace__ methods"
  | notACode => "getdoc() argument must be a fault-code"
  | converterNotCallable => "register() first argument must be callable"
  | noTypeNames => "register() requires at least one type name string"
  | messageTypeNotClass => "register() message_type must be a class"
  | emptyParameter => "parameter names and values must not be None"
  | fixupWhileIterating => "parameters must not be fixed up while iterating over them"
  | convertedToNothing converter name =>
    "converter " ++ converter ++ " returned None for parameter '" ++ name ++ "'"
  | messageMissing => "CommandContext() message must not be None"
  | contentNotText => "CommandContext() message_content must be a string"
  | contextTextNotText place =>
    "CommandContext() " ++ place.name ++ " must be a string or None"
  | unknownFields names => "__replace__() got unexpected field(s) " ++ commaSeparated names
  | aggregateOfOthers aggregate => aggregate ++ "() arguments must be restrictions"
  | notARestriction => "add() argument must be a restriction instance"
  | notARestrictionClass => "RestrictionChainElement() argument must be a restriction class"
  | notAPolicy => "chain() policy must be a RestrictionPolicy"
  | aliasSourceNotText => "default_alias() argument must be a string"
  | emptyAliases owner => owner ++ " aliases must be non-empty strings"
  | unnamedWithoutAliases callback => "command() needs aliases for unnamed callable " ++ callback
  | commandNotCallable => "command() argument must be callable"
  | notACommand => "add() argument must be a Command instance"
  | sourceNotText => "include() argument must be a string"
  | cannotImport module => "unable to import module " ++ quoted module
  | interceptorNotCallable => "register() first argument must be callable"
  | noPhases => "register() requires at least one Phase"
  | prefixNotTextOrProvider => "CommandHandler() prefix must be a string or a callable"
  | notAnEventType => "listen() argument must be a CommandEvent subclass"
  | interceptorResult interceptor result =>
    "interceptor " ++ interceptor ++ " must return a CommandContext, not " ++ result
  | renameOfOther => "rename() first argument must be callable"
  | renameToOther => "rename() second argument must be a string"
  | renameFixed => "rename() first argument must be a updatable callable"
  | renameDecoratorName => "@rename() argument must be a string"
  | renameDecoratorTarget => "@rename() must be applied to a callable"
  | renameCount given => "rename takes 1 to 2 arguments but " ++ natText given ++ " were given"
  | wordNotText => "pluralize() first argument must be a string"
  | splitOfOther => "split_parameters() first argument must be a string"
  | splitMaximumNotInteger => "split_parameters() second argument must be an integer"
  | globNotText => "mglob() argument must be a string"
  | globEmpty => "mglob() argument must be a non-empty string"
  | globWithoutPackage => "mglob() pattern must start with a concrete package segment"

end Misuse

end ChatCommands
