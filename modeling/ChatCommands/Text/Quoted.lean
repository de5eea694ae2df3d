import ChatCommands.Text.Printable

/-!
# Quoted texts

A quoted text is shown between single quotes, or between double quotes when it holds a single quote
and no double one. Inside, the backslash and the quote carry a backslash, and each character that is
not printable is named by a letter or by its code point.
-/

namespace ChatCommands.Text

/-- Hexadecimal digit of a number below sixteen. -/
def hexDigit (n : Nat) : Char := "0123456789abcdef".toList.getD n '0'

/-- The last `width` hexadecimal digits of a number. -/
def hex : Nat → Nat → List Char
  | 0, _ => []
  | width + 1, n => hex width (n / 16) ++ [hexDigit (n % 16)]

/-- A character that is not printable, by its code point. -/
def escaped (c : Char) : List Char :=
  let n := c.toNat
  if n < 0x100 then '\\' :: 'x' :: hex 2 n
  else if n < 0x10000 then '\\' :: 'u' :: hex 4 n
  else '\\' :: 'U' :: hex 8 n

/-- A character as it stands between quotes `q`. -/
def quotedChar (q c : Char) : List Char :=
  if c = q ∨ c = '\\' then ['\\', c]
  else if c = '\n' then ['\\', 'n']
  else if c = '\r' then ['\\', 'r']
  else if c = '\t' then ['\\', 't']
  else if printable.mem c then [c]
  else escaped c

/-- The quote that a text stands between. -/
def quoteFor (cs : List Char) : Char :=
  if cs.contains '\'' && !cs.contains '"' then '"' else '\''

/-- The quoted form of a text. -/
def quote (cs : List Char) : List Char :=
  let q := quoteFor cs
  q :: cs.flatMap (quotedChar q) ++ [q]

end ChatCommands.Text

namespace ChatCommands

/-- The quoted form of a string. -/
def quoted (s : String) : String := String.ofList (Text.quote s.toList)

end ChatCommands
