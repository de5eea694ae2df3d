import ChatCommands.Fault.Rendering
import ChatCommands.Handler.Event
import ChatCommands.Handler.Interceptors
import ChatCommands.Parameters
import ChatCommands.Registry
import ChatCommands.Text.Split

/-!
# Handlers

A handler resolves messages to commands and runs them. Resolution fills in what the context of a
message still misses: the prefix, then the alias with the parameter text, then the command. Before
and after each of these an interceptor of the host may change the context. A command runs if the
chain of its restrictions allows it; listeners hear of messages for which no command was found or
allowed.
-/

namespace ChatCommands

/-- What a command or a reply gives back. -/
inductive Result
  | value (v : Value)
  | parameters (p : Parameters)

/-- The result of a run: of a run that has ended, or of one beside the handler. -/
inductive Execution
  | finished (r : Result)
  | background (outcome : Except Error Result)

/-- What the host does when the handler calls it. -/
structure Host (σ : Type) where
  /-- The prefix for a message. -/
  prefixOf : Value → Act σ Value
  /-- The text of a message. -/
  extract : Value → Act σ Value
  intercept : Interceptor → Context Command → Phase → Act σ Intercepted
  /-- Whether a restriction allows the command of a context. -/
  ask : Restriction → Context Command → Act σ Bool
  run : Command → Context Command → Act σ Result
  /-- Tells a user what was wrong with the parameters of a command. -/
  reply : Option (Context Command → String → Act σ Result)
  notify : Listener → Event → Act σ Unit
  warn : Fault → Act σ Unit
  print : Rendering → Act σ Unit

/-- Where prefixes come from. -/
inductive PrefixSource
  | fixed (commandPrefix : String)
  /-- The host is asked. -/
  | provided
  deriving DecidableEq, Repr

/-- The prefix of handlers that are given none. -/
def defaultPrefix : String := "!"

/-- A value as a source of prefixes: a text is a fixed prefix, other values are none. -/
def PrefixSource.ofValue? : Value → Option PrefixSource
  | .text s => some (.fixed s)
  | _ => none

/-- A handler with what it was given. -/
structure Handler where
  registry : Registry
  prefixSource : PrefixSource
  interceptors : Interceptors
  restrictions : Restrictions
  listeners : List Listener
  presentation : Presentation
  /-- Warnings are printed when the handler runs in a shell. -/
  inShell : Bool
  /-- The most commands that run beside the handler. -/
  workers : Option Int

namespace Handler

variable {σ : Type} [Journal σ]

/-- Notes a step of the handler. -/
def trace (message : String) : Act σ Unit := Act.note .pipeline .debug message

/-! ### Making a handler -/

/-- A handler of commands. Registering the commands or the restrictions may fail. -/
def make (commands : List Command) (prefixSource : Option PrefixSource)
    (interceptors : Interceptors) (restrictions : List (Option Restriction)) (inShell : Bool)
    (workers : Option Int) (presentation : Presentation) : Act σ Handler := do
  let registry ← Registry.ofList (.start none .object) commands
  let some prefixSource := prefixSource | Act.fail (.misuse .prefixNotTextOrProvider)
  let restrictions ← Act.ofExcept (Restrictions.start.addAll restrictions)
  Act.note .pipeline .info ("Got " ++ countedNat "command" registry.size ++ " registered")
  return {
    registry, prefixSource, interceptors, restrictions, inShell, workers, presentation
    listeners := [] }

/-- Registers a listener for a class of events. -/
def listen (h : Handler) (id : Nat) (cls : Option EventClass) : Except Error Handler :=
  match cls with
  | some cls => .ok { h with listeners := h.listeners ++ [⟨id, cls⟩] }
  | none => .error (.misuse .notAnEventType)

/-- Registers a command with a handler that is at work. -/
def addCommand (command : Option Command) : Act (Handler × σ) Unit :=
  .of fun (h, s) =>
    let (result, registry, s) := (Registry.add command).on (h.registry, s)
    (result, { h with registry }, s)

/-- Registers an interceptor for phases. -/
def addInterceptor (h : Handler) (interceptor : Option Interceptor) (phases : List (Option Phase)) :
    Except Error Handler :=
  (h.interceptors.register interceptor phases).map fun interceptors => { h with interceptors }

/-- Registers a restriction. -/
def addRestriction (h : Handler) (r : Option Restriction) : Except Error Handler :=
  (h.restrictions.add r).map fun restrictions => { h with restrictions }

/-- Tells the listeners of an event, in the order of their registration. -/
def notify (host : Host σ) (h : Handler) (e : Event) : Act σ Unit :=
  (h.listeners.filter fun l => e.cls.reaches l.cls).forM fun l => host.notify l e

/-! ### Resolution -/

/-- The prefix for a message. -/
def prefixFor (host : Host σ) (h : Handler) (message : Value) : Act σ Value :=
  match h.prefixSource with
  | .fixed s => return .text s
  | .provided => host.prefixOf message

/-- Lets the interceptor of a phase change a context. -/
def intercept (host : Host σ) (h : Handler) (p : Phase) (c : Context Command) :
    Act σ (Context Command) :=
  match h.interceptors.get? p with
  | none => return c
  | some i => do
    trace ("Calling " ++ p.words ++ " interceptor for " ++ c.shown)
    match ← host.intercept i c p with
    | .other className => Act.fail (.misuse (.interceptorResult i.shown className))
    | .context d =>
      trace (p.sentence ++ " interceptor result is " ++ d.shown)
      return d

/-- The warning that every message is taken for a command. -/
def emptyPrefixWarning : Fault :=
  .make .emptyPrefixWarning
    ("The command prefix is empty, every message is parsed as a possible command, " ++
      "which can hurt performance")
    [("hint",
      .text "configure a non-empty prefix or ignore unwanted messages in an interceptor")]

/-- Surfaces a warning: printed in a shell, else issued. -/
def issue (host : Host σ) (h : Handler) (f : Fault) : Act σ Unit := do
  let f ← Act.ofExcept (f.replace (.ofList [("shell", .bool h.inShell)]))
  f.surface h.presentation host.warn host.print

/-- Notes what is missing when no command is found. -/
def missing {n : Nat} (what : String) (c : Context Command) : Act σ (Context Command × Next n) := do
  trace ("No matching command found (" ++ what ++ " missing)")
  return (c, .finish .notFound)

/-- What follows the prefix of a message, if it starts with the prefix. -/
def afterPrefix? (commandPrefix content : String) : Option String :=
  if commandPrefix.toList.isPrefixOf content.toList then
    some (String.ofList (content.toList.drop commandPrefix.toList.length))
  else none

/-- The text of a message without as many characters as the prefix has. -/
def withoutPrefix (c : Context Command) : String :=
  String.ofList (c.content.toList.drop (c.commandPrefix.getD "").length)

/-- Fills in the alias and the parameter text, if the message has a registered alias. -/
def findAlias (h : Handler) (c : Context Command) : Context Command :=
  if c.commandAlias.isSome then c
  else
    match h.registry.match? (withoutPrefix c) with
    | some (word, parameters) =>
      { c with commandAlias := some word, parameterString := some parameters }
    | none => c

/-- Fills in the command that is registered for the alias. -/
def findCommand (h : Handler) (c : Context Command) : Context Command :=
  if c.command.isSome then c else c.withCommand (c.commandAlias.bind h.registry.get?)

/-- Runs one phase: what it leads to, and the context then. -/
def step (host : Host σ) (h : Handler) :
    (p : Phase) → Context Command → Act σ (Context Command × Next p.number)
  | .beforePrefix, c => do
    trace ("Entering prefix computation phase for " ++ c.shown)
    let c ← intercept host h .beforePrefix c
    return (c, c.forward .afterPrefix (by decide))
  | .afterPrefix, c => do
    let c ←
      if c.commandPrefix.isNone then
        Act.ofExcept (c.withPrefix (← h.prefixFor host c.message))
      else pure c
    let c ← intercept host h .afterPrefix c
    let next := c.forward .beforeAlias (by decide)
    if next.isPhase .beforeAlias && c.commandPrefix.isNone then missing "prefix" c
    else return (c, next)
  | .beforeAlias, c => do
    trace ("Entering alias and parameter string computation phase for " ++ c.shown)
    let c ← intercept host h .beforeAlias c
    let next := c.forward .afterAlias (by decide)
    if !next.isPhase .afterAlias then return (c, next)
    match c.commandPrefix with
    | none => missing "prefix" c
    | some commandPrefix =>
      if commandPrefix = "" then issue host h emptyPrefixWarning
      if (afterPrefix? commandPrefix c.content).isNone then
        trace "Message content does not start with prefix, ignoring message"
        return (c, .finish .ignored)
      return (c, next)
  | .afterAlias, c => do
    let c ← intercept host h .afterAlias (h.findAlias c)
    let next := c.forward .beforeCommand (by decide)
    if next.isPhase .beforeCommand && c.commandAlias.isNone then missing "alias" c
    else return (c, next)
  | .beforeCommand, c => do
    trace ("Entering command computation phase for " ++ c.shown)
    let c ← intercept host h .beforeCommand c
    let next := c.forward .afterCommand (by decide)
    if next.isPhase .afterCommand && c.commandAlias.isNone then missing "alias" c
    else return (c, next)
  | .afterCommand, c => do
    let c ← intercept host h .afterCommand (h.findCommand c)
    if c.command.isNone then missing "command" c
    else return (c, .finish .execute)

/-- Runs the phases that follow, up to the end. -/
def follow (host : Host σ) (h : Handler) {n : Nat} (next : Next n) (c : Context Command) :
    Act σ (Outcome × Context Command) :=
  match next with
  | .finish o => return (o, c)
  | .phase p _later => do
    let (c, next) ← step host h p c
    follow host h next c
termination_by 6 - n
decreasing_by have := p.number_le_six; omega

/-- Resolves a context without running anything. -/
def resolve (host : Host σ) (h : Handler) (c : Context Command) :
    Act σ (Outcome × Context Command) := do
  let start : Next 0 := c.forward .beforePrefix (by decide)
  let (o, c) ← follow host h start c
  trace ("Resolved to " ++ o.name ++ " for " ++ c.shown)
  return (o, c)

/-! ### Running commands -/

/-- Runs the command of a context. A failure to parse parameters is told to the user if the host can
do so. -/
def run (host : Host σ) (command : Command) (c : Context Command) : Act σ Result := do
  match ← (host.run command c).attempt with
  | .ok r => return r
  | .error e =>
    match e.parameterFault? with
    | none => Act.fail e
    | some f =>
      match host.reply with
      | some reply => reply c f.text
      | none =>
        Act.note .pipeline .warning
          ("Unreported parameter parse failure for " ++ command.shown ++ ": " ++ f.text)
        return .value .null

/-- Runs a command beside the handler; what it ends with is kept. -/
def runBeside (host : Host σ) (h : Handler) (command : Command) (c : Context Command) :
    Act σ Execution := do
  if h.workers.any (· ≤ 0) then Act.fail (.bare .badValue)
  let outcome ← (run host command c).attempt
  if let .error _ := outcome then
    Act.note .pipeline .error "Exception while executing command asynchronously"
  return .background outcome

/-- Runs the command of a context, beside the handler if the command asks for it. -/
def execute (host : Host σ) (h : Handler) (command : Command) (c : Context Command) :
    Act σ Execution :=
  if command.isAsynchronous then h.runBeside host command c
  else do return .finished (← run host command c)

/-! ### Handling messages -/

/-- The event of a message for which no command was found. It tells the first word after the prefix
when the message has no alias. -/
def notFoundEvent (c : Context Command) : Event :=
  let word :=
    match c.commandPrefix with
    | some commandPrefix =>
      (afterPrefix? commandPrefix c.content).bind fun rest =>
        (splitParameters rest 2).toOption.bind List.head?
    | none => none
  .notFound c c.commandPrefix (c.commandAlias <|> word)

/-- Handles a context that is prepared already. -/
def handleContext (host : Host σ) (h : Handler) (c : Context Command) :
    Act σ (Outcome × Context Command) := do
  trace ("Handle message for " ++ c.shown)
  let (outcome, c) ← h.resolve host c
  match outcome, c.command with
  | .execute, some command =>
    if ← command.chain.allows h.restrictions fun r => host.ask r c then
      let _ ← h.execute host command c
      return (outcome, c)
    else
      trace ("Command " ++ command.shown ++ " was not allowed by restrictions")
      h.notify host (.notAllowed c)
      return (.notAllowed, c)
  | .notFound, _ =>
    h.notify host (notFoundEvent c)
    return (outcome, c)
  | _, _ => return (outcome, c)

/-- Handles a message. -/
def handle (host : Host σ) (h : Handler) (message : Value) : Act σ (Outcome × Context Command) := do
  let content ← host.extract message
  let c ← Act.ofExcept (Context.make message content .null .null .null none .null)
  h.handleContext host c

end Handler

end ChatCommands
