import ChatCommands.Demo.Markup
import ChatCommands.Handler
import ChatCommands.Parser

/-!
# A demonstration

A handler of two commands, one that answers with pong and one that says what it is told, on lines of
text.
-/

namespace ChatCommands.Demo

/-- What the demonstration has printed, and the parser of its commands. -/
structure State where
  output : List String
  parser : Parser

/-- The state before the first line. -/
def State.start : State := ⟨[], .typed .builtIn⟩

instance : Inhabited State := ⟨.start⟩

instance : Journal State := ⟨fun _ s => s⟩

/-- The columns of the terminal. -/
def terminalWidth : Nat := 200

/-- Prints a text as it stands. -/
def print (s : String) : Act State Unit :=
  modify fun st =>
    { st with output := st.output ++ Text.layOut terminalWidth (Text.printableOnly s) }

/-- Prints a text with markup. -/
def printMarkup (s : String) : Act State Unit :=
  match Markup.render? s with
  | some plain => print plain
  | none => Act.fail (.foreign "MarkupError" none)

/-- Parses the parameters of a command. -/
def parse (command : Command) (c : Context Command) : Act State Parameters :=
  .of fun st =>
    let (result, parser, st) :=
      (Parser.parse (fun _ text _ _ => return .text text) c (.ofText? command.usage)).on
        (st.parser, st)
    (result, { st with parser })

/-- How often a command answers: as often as its parameter says, else once. -/
def times (p : Parameters) : Nat :=
  match p.get? (some "times") with
  | some (.int i) => i.toNat
  | _ => 1

/-- What the commands do. -/
def run (command : Command) (c : Context Command) : Act State Result := do
  let p ← parse command c
  match command.callback with
  | "ping" => printMarkup (" ".intercalate (List.replicate (times p) "pong"))
  | _ => printMarkup (((p.get? (some "text")).getD .null).plain)
  return .value .null

/-- Tells that a command is not known. -/
def unknown (e : Event) : Act State Unit :=
  match e with
  | .notFound _ commandPrefix commandAlias =>
    printMarkup ("Unknown command [bold]" ++ (Value.ofText? commandPrefix).plain ++
      (Value.ofText? commandAlias).plain ++ "[/]")
  | .notAllowed _ => return

/-- What the demonstration does when its handler calls it. -/
def host : Host State where
  prefixOf _ := return .text defaultPrefix
  extract message := return .text message.plain
  intercept _ c _ := return .context c
  ask _ _ := return true
  run := run
  reply := some fun _ text => do
    print text
    return .value .null
  notify _ e := unknown e
  warn _ := return
  print _ := return

/-- The commands of the demonstration. -/
def commands : Act State (List Command) := do
  let ping ← Command.ofCallback 0 (some ⟨"ping", some "ping", "ping", none⟩)
    { usage := .text "[<times:integer>]", description := some (.text "Answers with pong") }
  let say ← Command.ofCallback 1 (some ⟨"say", some "say", "say", none⟩)
    { usage := .text "<text...>", aliases := some (.list [.text "say", .text "echo"]) }
  return [ping, say]

/-- The handler of the demonstration. -/
def handler : Act State Handler := do
  let h ← Handler.make (← commands) (some (.fixed defaultPrefix)) .empty [] false none {}
  Act.ofExcept (h.listen 0 (some .notFound))

/-- Handles a line; an outcome other than a run is printed. -/
def respond (h : Handler) (line : String) : Act State Unit := do
  let (outcome, _) ← h.handle host (.text line)
  if outcome ≠ .execute then print outcome.shown

/-- Handles lines one after another. -/
def respondAll (lines : List String) : Act State Unit := do
  let h ← handler
  lines.forM (respond h)

/-- What the demonstration prints for lines of text. -/
def transcript (lines : List String) : List String := ((respondAll lines).on .start).2.output

end ChatCommands.Demo
