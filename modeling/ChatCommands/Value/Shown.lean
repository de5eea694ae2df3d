import ChatCommands.Text.Quoted
import ChatCommands.Value

/-!
# Values as text

Two ways to show a value: as a reader would write it in a program (texts quoted), and as a plain
text (a text stands as it is). They differ on texts, decimals and codes alone.
-/

namespace ChatCommands

/-- Parts between commas. -/
def commaSeparated (parts : List String) : String := ", ".intercalate parts

/-- An integer as text. -/
def intText (i : Int) : String := String.ofList (integerText i)

/-- A natural number as text. -/
def natText (n : Nat) : String := String.ofList (digits n)

/-- Texts in parentheses, each quoted; a single one carries a comma. -/
def tupleText : List String → String
  | [s] => "(" ++ quoted s ++ ",)"
  | ss => "(" ++ commaSeparated (ss.map quoted) ++ ")"

namespace Value

/-- A binary fraction: positional from `1e-4` up to `1e16`, with a digit on both sides of the point;
else in powers of ten of two digits or more. -/
def realText (d : Decimal) : String :=
  let n := d.normal
  let ds := digits n.coefficient
  let power := n.adjusted
  let body :=
    if n.coefficient = 0 then ['0', '.', '0']
    else if -4 ≤ power ∧ power < 16 then
      if n.exponent < 0 then Decimal.positional ds n.exponent.natAbs
      else ds ++ List.replicate n.exponent.toNat '0' ++ ['.', '0']
    else
      let mantissa :=
        match ds with
        | c :: e :: es => c :: '.' :: e :: es
        | _ => ds
      let places := digits power.natAbs
      mantissa ++ 'e' :: (if power < 0 then '-' else '+') ::
        (if places.length < 2 then '0' :: places else places)
  String.ofList (if d.negative then '-' :: body else body)

mutual
/-- A value as it would be written. -/
def shown : Value → String
  | null => "None"
  | unset => "Unset"
  | bool b => if b then "True" else "False"
  | int i => intText i
  | decimal d => "Decimal('" ++ d.text ++ "')"
  | real d => realText d
  | text s => quoted s
  | list vs => "[" ++ commaSeparated (shownList vs) ++ "]"
  | map es => "\x7b" ++ commaSeparated (shownEntries es) ++ "\x7d"
  | code c => "<FaultCode." ++ c.name ++ ": " ++ natText c.number ++ ">"
  | named s => "<class '" ++ s ++ "'>"
  | ofClass c => "<" ++ c.name ++ ">"

/-- The values of a list, each as it would be written. -/
def shownList : List Value → List String
  | [] => []
  | v :: vs => shown v :: shownList vs

/-- The entries of a map, each as it would be written. -/
def shownEntries : List (Value × Value) → List String
  | [] => []
  | (k, v) :: es => (shown k ++ ": " ++ shown v) :: shownEntries es
end

/-- A value as plain text. -/
def plain : Value → String
  | text s => s
  | decimal d => d.text
  | code c => natText c.number
  | v => v.shown

end Value

end ChatCommands
