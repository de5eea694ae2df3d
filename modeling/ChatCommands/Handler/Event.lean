import ChatCommands.Command

/-!
# Events

Listeners hear of messages that do not lead to a run: no command was found, or the command was not
allowed.
-/

namespace ChatCommands

/-- A message that did not lead to a run. -/
inductive Event
  /-- No command was found; prefix and alias are what the user typed. -/
  | notFound (context : Context Command) (commandPrefix commandAlias : Option String)
  | notAllowed (context : Context Command)

/-- The classes of events that listeners register for. -/
inductive EventClass
  | any
  | notFound
  | notAllowed
  deriving DecidableEq, Repr

namespace EventClass

/-- All classes of events. -/
def all : List EventClass := [any, notFound, notAllowed]

/-- The public name of a class. -/
def name : EventClass → String
  | any => "CommandEvent"
  | notFound => "CommandNotFoundEvent"
  | notAllowed => "CommandNotAllowedEvent"

/-- The class of a public name. -/
def ofName? (s : String) : Option EventClass := all.find? (·.name = s)

/-- The class of events that a value names; no value stands for all events. -/
def ofValue? : Value → Option EventClass
  | .null => some any
  | .text s => ofName? s
  | _ => none

/-- Whether events of a class reach listeners of another class. -/
def reaches (event listener : EventClass) : Bool := listener = any || listener = event

end EventClass

namespace Event

/-- The class of an event. -/
def cls : Event → EventClass
  | notFound .. => .notFound
  | notAllowed _ => .notAllowed

/-- The context of an event. -/
def context : Event → Context Command
  | notFound c _ _ => c
  | notAllowed c => c

/-- The message of an event. -/
def message (e : Event) : Value := e.context.message

/-- An event as it would be written in a program. -/
def shown : Event → String
  | notFound _ commandPrefix commandAlias =>
    "CommandNotFoundEvent(prefix=" ++ (Value.ofText? commandPrefix).shown ++ ", alias=" ++
      (Value.ofText? commandAlias).shown ++ ")"
  | notAllowed c => "CommandNotAllowedEvent(" ++ c.shown ++ ")"

end Event

/-- A listener of the host, with the class of events that it is registered for. -/
structure Listener where
  id : Nat
  cls : EventClass
  deriving DecidableEq, Repr

end ChatCommands
