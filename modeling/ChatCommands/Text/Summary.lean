import ChatCommands.Text.Blank

/-!
# Summaries of documentation

A documentation text is cleaned of the indentation that its place in a program gives it. Its summary
is the first line that is left.
-/

namespace ChatCommands.Text

/-- Distance between tab stops. -/
def tabWidth : Nat := 8

/-- Replaces tabs by spaces up to the next tab stop; `column` is the place in the current line. -/
def expandTabs (column : Nat) : List Char → List Char
  | [] => []
  | c :: cs =>
    if c = '\t' then
      let width := tabWidth - column % tabWidth
      List.replicate width ' ' ++ expandTabs (column + width) cs
    else c :: expandTabs (if c = '\n' ∨ c = '\r' then 0 else column + 1) cs

/-- The lines of a text. -/
def lines : List Char → List (List Char)
  | [] => [[]]
  | c :: cs =>
    match c, lines cs with
    | '\n', ls => [] :: ls
    | c, l :: ls => (c :: l) :: ls
    | c, [] => [[c]]

/-- The number of blanks that a line starts with; a line of blanks has no indentation. -/
def indent? (line : List Char) : Option Nat :=
  if allBlank line then none else some (line.takeWhile isBlank).length

/-- The smallest indentation of several lines, if one has any. -/
def margin? (ls : List (List Char)) : Option Nat := (ls.filterMap indent?).min?

/-- Lines without the indentation that all but the first have in common, and without empty lines at
the ends. -/
def unindent : List (List Char) → List (List Char)
  | [] => []
  | first :: rest =>
    let margin := (margin? rest).getD 0
    let ls := trimStart first :: rest.map (List.drop margin)
    ((ls.dropWhile List.isEmpty).reverse.dropWhile List.isEmpty).reverse

/-- The first line of a documentation text that is left when it is cleaned. -/
def summary? (text : String) : Option String :=
  match unindent (lines (expandTabs 0 text.toList)) with
  | (c :: line) :: _ => some (String.ofList (c :: line))
  | _ => none

end ChatCommands.Text
