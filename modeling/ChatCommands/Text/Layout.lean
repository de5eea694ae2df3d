import ChatCommands.Text.Blank
import ChatCommands.Text.Columns
import ChatCommands.Text.Summary

/-!
# Laying text out on a terminal

A text is laid out in lines of a given number of columns. Lines break between words; a word that is
wider than a line is broken anywhere.
-/

namespace ChatCommands.Text

/-- Controls that a terminal text does not keep. -/
def isDropped (c : Char) : Bool := [7, 8, 11, 12, 13].contains c.toNat

/-- A text without the controls that a terminal text does not keep. -/
def printableOnly (s : String) : String := String.ofList (s.toList.filter (!isDropped ·))

/-- Replaces tabs by blanks up to the next tab stop, counting columns. -/
def fillTabs (column : Nat) : List Char → List Char
  | [] => []
  | c :: cs =>
    if c = '\t' then
      let count := tabWidth - column % tabWidth
      List.replicate count ' ' ++ fillTabs (column + count) cs
    else c :: fillTabs (column + columns c) cs

/-- A text without the blanks at its end. -/
def wordPart (cs : List Char) : List Char := trimEnd cs

/-- Cuts a text into pieces of a word each, with the blanks after it; blanks at the start go with
the first word. `inWord` and `after` tell what the current piece, kept in reverse, has seen. -/
def chunksFrom : (current : List Char) → (inWord after : Bool) → List Char → List (List Char)
  | current, inWord, _, [] => if inWord then [current.reverse] else []
  | current, inWord, after, c :: cs =>
    if isBlank c then chunksFrom (c :: current) inWord inWord cs
    else if after then current.reverse :: chunksFrom [c] true false cs
    else chunksFrom (c :: current) true false cs

/-- The pieces of a text, of a word each. -/
def chunks (cs : List Char) : List (List Char) := chunksFrom [] false false cs

/-- Cuts a text into pieces of at most `limit` columns; `current` is the piece so far, in
reverse. -/
def chopFrom (limit : Nat) : (current : List Char) → (used : Nat) → List Char → List (List Char)
  | current, _, [] => [current.reverse]
  | current, used, c :: cs =>
    if limit < used + columns c then current.reverse :: chopFrom limit [c] (columns c) cs
    else chopFrom limit (c :: current) (used + columns c) cs

/-- Puts pieces on lines; `line` is the line so far, `used` its columns. -/
def fill (limit : Nat) : (line : List Char) → (used : Nat) → List (List Char) → List (List Char)
  | line, _, [] => [line]
  | line, used, piece :: rest =>
    let needed := width (wordPart piece)
    if used + needed ≤ limit then fill limit (line ++ piece) (used + width piece) rest
    else if limit < needed then
      let parts := chopFrom limit [] 0 piece
      let last := parts.getLast?.getD []
      (if line.isEmpty then [] else [line]) ++ parts.dropLast ++ fill limit last (width last) rest
    else if used ≠ 0 then line :: fill limit piece (width piece) rest
    else fill limit (line ++ piece) used rest

/-- A line without the blanks that stand beyond its limit. -/
def cropBlanks (limit : Nat) (line : List Char) : List Char :=
  let blanks := line.length - (trimEnd line).length
  line.take (line.length - min blanks (line.length - limit))

/-- The longest start of a line that fits, filled up with a blank where half a wide character would
stand. -/
def crop : (limit : Nat) → List Char → List Char
  | _, [] => []
  | limit, c :: cs =>
    if columns c ≤ limit then c :: crop (limit - columns c) cs
    else if limit = 1 then [' ']
    else []

/-- The lines on which a line of a text is laid out. -/
def wrapLine (limit : Nat) (line : List Char) : List (List Char) :=
  let cs := fillTabs 0 line
  let filled := if (chunks cs).isEmpty then [cs] else fill limit [] 0 (chunks cs)
  filled.map fun l => crop limit (cropBlanks limit l)

/-- The lines on which a text is laid out. -/
def layOut (limit : Nat) (s : String) : List String :=
  ((lines s.toList).flatMap (wrapLine limit)).map String.ofList

/-- A text followed by a filler up to a number of columns. -/
def padTo (limit : Nat) (filler : Char) (s : String) : String :=
  s ++ String.ofList (List.replicate (limit - width s.toList) filler)

end ChatCommands.Text
