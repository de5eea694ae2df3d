import ChatCommands.Demo

/-!
# Command line

Reads messages from standard input, one a line, and answers each on standard output.
-/

open ChatCommands

/-- Prints what was added to the output since it had `printed` lines. -/
def printFrom (printed : Nat) (s : Demo.State) : IO Unit :=
  (s.output.drop printed).forM fun line => IO.println line

/-- Handles lines until the input ends or an error arises. -/
partial def converse (input : IO.FS.Stream) (h : Handler) (s : Demo.State) : IO UInt32 := do
  let line ← input.getLine
  if line.isEmpty then return 0
  let text := if line.endsWith "\n" then (line.dropEnd 1).toString else line
  let (result, after) := (Demo.respond h text).on s
  printFrom s.output.length after
  match result with
  | .ok () => converse input h after
  | .error _ => return 1

/-- Runs the demonstration on standard input. -/
def main : IO UInt32 := do
  match Demo.handler.on .start with
  | (.ok h, s) => converse (← IO.getStdin) h s
  | (.error _, _) => return 1
