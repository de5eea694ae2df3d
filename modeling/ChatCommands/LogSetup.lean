import ChatCommands.Fault

/-!
# Log setup

A program that wants its notes on the terminal sets the least level that is shown, and whether
warnings go the same way. Setting up again replaces what was set up before.
-/

namespace ChatCommands

/-- What a program has set up for its notes. -/
structure LogSetup where
  level : Int
  /-- The number of outlets for notes. -/
  outlets : Nat
  capturesWarnings : Bool
  deriving DecidableEq, Repr

namespace LogSetup

/-- The names of the levels. -/
def levels : Table String Int := .ofList [
  ("CRITICAL", 50), ("FATAL", 50), ("ERROR", 40), ("WARN", 30), ("WARNING", 30), ("INFO", 20),
  ("DEBUG", 10), ("NOTSET", 0)]

/-- The level that is set when none is given. -/
def defaultLevel : Value := .int 20

/-- The number of a level, which is given by number or by name. -/
def readLevel (v : Value) : Except Error Int :=
  match v with
  | .int i => .ok i
  | .bool b => .ok (if b then 1 else 0)
  | .text name =>
    match levels.get? name with
    | some i => .ok i
    | none => .error (.bare .badValue)
  | _ => .error (.bare .unusable)

/-- Sets up the notes of a program. -/
def configure (level : Value) (capturesWarnings : Bool) : Except Error LogSetup :=
  (readLevel level).map fun level => ⟨level, 1, capturesWarnings⟩

end LogSetup

end ChatCommands
