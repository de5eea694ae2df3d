import ChatCommands.Fault
import ChatCommands.Text.Blank

/-!
# Splitting a parameter text

Commands that declare no usage split their parameter text at blanks. A positive maximum bounds the
number of parts; the last part then keeps the rest of the text as it stands. A maximum beyond what a
machine word counts is refused.
-/

namespace ChatCommands

/-- The largest number of cuts that can be asked for, as cuts are counted in a machine word. -/
def mostCuts : Int := 0x7fffffffffffffff

/-- The parts of a text between blanks, at most `maximum` of them when that is positive. A text that
is blank has none, whatever the maximum. -/
def splitParameters (text : String) (maximum : Int) : Except Error (List String) :=
  match Text.trim text.toList with
  | [] => .ok []
  | cs =>
    if mostCuts < maximum - 1 then .error (.bare .tooLarge)
    else
      let parts := if maximum ≤ 0 then Text.words cs else Text.cut (maximum.toNat - 1) cs
      .ok (parts.map String.ofList)

/-- The parts of a text between blanks, where text and maximum may be any values. -/
def splitValues (text maximum : Value) : Except Error (List String) :=
  match text, maximum with
  | .text s, .int i => splitParameters s i
  | .text s, .bool b => splitParameters s (if b then 1 else 0)
  | .text s, .code c => splitParameters s c.number
  | .text _, _ => .error (.misuse .splitMaximumNotInteger)
  | _, _ => .error (.misuse .splitOfOther)

end ChatCommands
