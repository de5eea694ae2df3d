import ChatCommands.Journal
import ChatCommands.Text.Layout
import ChatCommands.Text.Letters

/-!
# Faults on a terminal

A fault is rendered as a header, its message and a hint if it has one, each with styles for its
fragments. The host may give labels, documentation and styles of its own.
-/

namespace ChatCommands

/-- What the host sets about the rendering of faults. -/
structure Presentation where
  program : Value := .text "commodore"
  labels : Table Value Value := .empty
  styles : Table String String := .empty
  docs : Table Value Value := .empty

instance : Inhabited Presentation := ⟨{}⟩

namespace FaultCode

/-- The label of a code: the host's, or its number. -/
def label (p : Presentation) (c : FaultCode) : String :=
  ((p.labels.get? (.code c)).getD (.int c.number)).plain

/-- The documentation of a code, which has to be a code. -/
def doc (p : Presentation) (v : Value) : Except Error Value :=
  match v with
  | .code c => .ok ((p.docs.get? (.code c)).getD .null)
  | _ => .error (.misuse .notACode)

end FaultCode

/-! ### Styled texts -/

/-- A stretch of a text with a style. -/
structure Span where
  start : Nat
  stop : Nat
  style : String
  deriving DecidableEq, Repr

/-- A text with a style for all of it and styles for stretches of it. -/
structure StyledText where
  plain : String
  style : String := ""
  spans : List Span := []
  deriving DecidableEq, Repr

namespace StyledText

/-- The text of one fragment, without characters that a terminal text does not keep. An empty
fragment has no style. -/
def fragment (text style : String) : StyledText :=
  if text = "" then ⟨"", "", []⟩ else ⟨Text.printableOnly text, style, []⟩

/-- A text followed by a fragment, whose style becomes a span. -/
def append (t u : StyledText) : StyledText :=
  let start := t.plain.length
  let stop := start + u.plain.length
  { t with
    plain := t.plain ++ u.plain
    spans := t.spans ++ (if u.style = "" ∨ u.plain = "" then [] else [⟨start, stop, u.style⟩]) }

/-- The text of several fragments. -/
def assemble (fragments : List StyledText) : StyledText := fragments.foldl append ⟨"", "", []⟩

end StyledText

/-! ### Rendered faults -/

/-- A rendered fault: its parts after one another, or in a panel with the header as title. -/
structure Rendering where
  header : StyledText
  body : List StyledText
  isPanel : Bool
  deriving DecidableEq, Repr

namespace Fault

/-- The styles of errors. -/
def errorStyles : Table String String := .ofList [
  ("prog-name", "bold #E6E6F0"), ("code", "bold #00E5FF"), ("title", "bold #FF4DA6"),
  ("message", "#C8C8D0"), ("hint-arrow", "#9CE19C dim"), ("hint", "italic #9CE19C")]

/-- The styles of warnings. -/
def warningStyles : Table String String := .ofList [
  ("prog-name", "bold #E6E6F0"), ("code", "bold #FFB400"), ("title", "bold #FFC2E0"),
  ("message", "#D6D6DE"), ("hint-arrow", "#B8EFAF dim"), ("hint", "italic #B8EFAF")]

/-- Whether an option of a fault counts as true. -/
def isSet (f : Fault) (name : String) (default : Bool) : Bool :=
  match f.option? name with
  | some v => v.truthy
  | none => default

/-- What stands in the header for the code of a fault. -/
def codeLabel (p : Presentation) (f : Fault) : String :=
  match f.code with
  | .code c => c.label p
  | _ => ""

/-- A title with a capital letter at the start of each word. -/
def titleText (f : Fault) : String := String.ofList (Text.title f.title.plain.toList)

/-- A value as the text of a fragment; what counts as false has none. -/
def fragmentText (v : Value) : String := if v.truthy then v.plain else ""

/-- Renders a fault. -/
def render (p : Presentation) (f : Fault) : Rendering :=
  let palette := (if f.kind.isWarning then warningStyles else errorStyles).merge p.styles
  let style name := if f.isSet "colorful" true then (palette.get? name).getD "" else ""
  let styled text name := StyledText.fragment text (style name)
  let plain text := StyledText.fragment text ""
  let message := f.message.getD ""
  let hint := (f.option? "hint").getD .null
  { header := .assemble [
      plain "[ ", styled (fragmentText p.program) "prog-name", plain " — ",
      styled (f.codeLabel p) "code", plain " | ", styled f.titleText "title", plain " ]"]
    body := styled (if message = "" then fragmentText f.title else message) "message" ::
      (if hint.truthy then
        [.assemble [styled " → " "hint-arrow", styled hint.plain "hint"]] else [])
    isPanel := f.isSet "fancy" false }

end Fault

namespace Rendering

/-- The columns of the terminal that faults are printed on. -/
def terminalWidth : Nat := 160

/-- The columns inside a panel. -/
def panelWidth : Nat := terminalWidth - 4

/-- A line of a panel. -/
def panelLine (s : String) : String := "│ " ++ Text.padTo panelWidth ' ' s ++ " │"

/-- The lines of a rendered fault on the terminal. -/
def lines (r : Rendering) : List String :=
  if r.isPanel then
    let title := " " ++ (r.header.plain.map fun c => if c = '\n' then ' ' else c) ++ " "
    let cropped := String.ofList (Text.crop panelWidth (Text.fillTabs 0 title.toList))
    ("╭─" ++ Text.padTo panelWidth '─' cropped ++ "─╮") ::
      (r.body.flatMap fun t => (Text.layOut panelWidth t.plain).map panelLine) ++
      ["╰" ++ Text.padTo (terminalWidth - 2) '─' "" ++ "╯"]
  else (r.header :: r.body).flatMap fun t => Text.layOut terminalWidth t.plain

end Rendering

/-! ### Surfacing -/

namespace Fault

/-- What happens with a fault that surfaces. -/
inductive Manner
  | raised
  | warned
  | printed
  deriving DecidableEq, Repr

/-- A fault in a shell is printed; else errors are raised and warnings are issued. -/
def manner (f : Fault) : Manner :=
  if f.isSet "shell" false then .printed
  else if f.kind.isWarning then .warned
  else .raised

/-- Surfaces a fault: prints it, issues it as a warning or raises it. -/
def surface {σ : Type} (f : Fault) (p : Presentation) (warn : Fault → Act σ Unit)
    (print : Rendering → Act σ Unit) : Act σ Unit :=
  match f.manner with
  | .printed => print (f.render p)
  | .warned => warn f
  | .raised => Act.fail (.fault f)

/-- The options of a fault cannot be written. -/
def writeOption (_ : Fault) (_ : String) (_ : Value) : Except Error Fault :=
  .error (.bare .unusable)

end Fault

end ChatCommands
