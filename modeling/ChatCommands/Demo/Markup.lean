import ChatCommands.Text.Blank
import ChatCommands.Text.Layout
import ChatCommands.Text.Letters

/-!
# Markup

Texts for a terminal may carry tags in brackets that set styles. A tag opens a style or closes one:
the latest, or the latest of a name. A backslash before a bracket takes its meaning away.
-/

namespace ChatCommands.Demo

/-- A piece of a marked-up text. -/
inductive Markup
  | text (cs : List Char)
  | tag (body : List Char)
  deriving DecidableEq, Repr

namespace Markup

/-- Whether a tag may start with a character. -/
def isTagStart (c : Char) : Bool := ('a' ≤ c && c ≤ 'z') || c = '#' || c = '/' || c = '@'

/-- What stands up to the next closing bracket, unless another bracket opens before. -/
def untilClose? : List Char → Option (List Char × List Char)
  | [] => none
  | c :: cs =>
    if c = ']' then some ([], cs)
    else if c = '[' then none
    else (untilClose? cs).map fun (body, rest) => (c :: body, rest)

/-- The tag that an opening bracket starts, and what follows it. -/
def readTag? : List Char → Option (List Char × List Char)
  | '[' :: c :: cs =>
    if isTagStart c then (untilClose? cs).map fun (body, rest) => (c :: body, rest) else none
  | _ => none

/-- The pieces of a marked-up text. Two backslashes before a tag are one in the text. `fuel` bounds
the number of steps. -/
def readFrom : (fuel : Nat) → List Char → List Markup
  | 0, _ | _, [] => []
  | fuel + 1, c :: cs =>
    let slashes := (c :: cs).takeWhile (· = '\\')
    let rest := (c :: cs).dropWhile (· = '\\')
    match readTag? rest with
    | some (body, after) =>
      text (List.replicate (slashes.length / 2) '\\') ::
        (if slashes.length % 2 = 1 then text ('[' :: body ++ [']']) else tag body) ::
        readFrom fuel after
    | none => text [c] :: readFrom fuel cs

/-- The pieces of a marked-up text. -/
def read (cs : List Char) : List Markup := readFrom cs.length cs

/-- The styles that have a short name. -/
def shortNames : List (String × String) :=
  [("b", "bold"), ("d", "dim"), ("i", "italic"), ("u", "underline"), ("uu", "underline2"),
    ("r", "reverse"), ("c", "conceal"), ("s", "strike"), ("o", "overline")]

/-- The name of a style as it is compared: in small letters, and not shortened. -/
def styleName (cs : List Char) : List Char :=
  let name := Text.lower (Text.trim (cs.takeWhile (· ≠ '=')))
  ((shortNames.lookup (String.ofList name)).map String.toList).getD name

/-- The open styles, latest first, without the latest of a name. -/
def close? (name : List Char) : List (List Char) → Option (List (List Char))
  | [] => none
  | open₁ :: opened =>
    if open₁ = name then some opened else (close? name opened).map (open₁ :: ·)

/-- The text of pieces, unless a tag closes a style that is not open. -/
def plain? : (opened : List (List Char)) → List Markup → Option (List Char)
  | _, [] => some []
  | opened, text cs :: ps => (plain? opened ps).map (cs ++ ·)
  | opened, tag ('/' :: body) :: ps =>
    let name := styleName body
    let left := if name = [] then opened.tail? else close? name opened
    left.bind fun opened => plain? opened ps
  | opened, tag body :: ps => plain? (styleName body :: opened) ps

/-- A text in which no bracket carries a backslash any more. -/
def unescape : List Char → List Char
  | '\\' :: '[' :: cs => '[' :: unescape cs
  | c :: cs => c :: unescape cs
  | [] => []

/-- The pieces of text joined with their neighbours. -/
def joined : List Markup → List Markup
  | [] => []
  | text cs :: ps =>
    match joined ps with
    | text ds :: qs => text (cs ++ ds) :: qs
    | qs => text cs :: qs
  | tag body :: ps => tag body :: joined ps

/-- A marked-up text without its markup, unless a tag closes a style that is not open. -/
def render? (s : String) : Option String :=
  let cs := s.toList
  let pieces := (joined (read cs)).map fun
    | text cs => text (unescape cs)
    | p => p
  (if cs.contains '[' then plain? [] pieces else some cs).map fun cs =>
    Text.printableOnly (String.ofList cs)

end Markup

end ChatCommands.Demo
