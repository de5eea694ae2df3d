import ChatCommands.Fault
import ChatCommands.Text.Blank
import ChatCommands.Text.Letters

/-!
# Aliases

A command is run by any of its aliases. A command that names none is run by its own name, without
the word "command" or "cmd" at the ends of it and with a small first letter.
-/

namespace ChatCommands.Alias

/-! ### Default aliases -/

/-- Whether a text starts with a word in any case; the word is given in small letters. -/
def startsWithWord (word cs : List Char) : Bool :=
  word.length ≤ cs.length && (cs.take word.length).map Char.toLower == word

/-- The words that names of commands are dressed with. -/
def markers : List (List Char) := ["command".toList, "cmd".toList]

/-- What follows a marker at the start of a name, if there is one; an underscore goes with it. -/
def dropLeadingMarker (cs : List Char) : List Char :=
  match markers.find? (startsWithWord · cs) with
  | none => cs
  | some word =>
    match cs.drop word.length with
    | '_' :: rest => rest
    | rest => rest

/-- Whether nothing follows but one line break. -/
def isLineEnd (cs : List Char) : Bool := cs = [] || cs = ['\n']

/-- What follows a marker that ends a name, if there is one here; an underscore may lead it. -/
def endingMarker? (cs : List Char) : Option (List Char) :=
  let body :=
    match cs with
    | '_' :: rest => rest
    | _ => cs
  (markers.find? fun word => startsWithWord word body && isLineEnd (body.drop word.length)).map
    fun word => body.drop word.length

/-- A name without the marker at its end. -/
def dropEndingMarker : List Char → List Char
  | [] => []
  | c :: cs =>
    match endingMarker? (c :: cs) with
    | some rest => rest
    | none => c :: dropEndingMarker cs

/-- The alias that a name gives. A name of markers only is kept whole. -/
def ofName (name : String) : String :=
  let cs :=
    match dropEndingMarker (dropLeadingMarker name.toList) with
    | [] => name.toList
    | stripped => stripped
  match cs with
  | [] => ""
  | c :: rest => String.ofList (Text.lower [c] ++ rest)

/-- The alias that a value gives, which has to be a text. -/
def ofValue (v : Value) : Except Error String :=
  match v with
  | .text name => .ok (ofName name)
  | _ => .error (.misuse .aliasSourceNotText)

/-! ### Given aliases -/

/-- Whether a text can be an alias: it is not empty and not only blanks. -/
def isValid (s : String) : Bool := !Text.allBlank s.toList

/-- The values among which each is equal to none before it. -/
def distinct (vs : List Value) : List Value :=
  (vs.foldl (fun kept v => if kept.any (· == v) then kept else v :: kept) []).reverse

/-- The aliases of a list of values, all of which have to be valid. -/
def valid? : List Value → Option (List String)
  | [] => some []
  | .text s :: vs => if isValid s then (valid? vs).map (s :: ·) else none
  | _ :: _ => none

/-- The aliases that a value gives to a command: a text is one alias, a list is several. -/
def read (owner : String) (v : Value) : Except Error (List String) := do
  let given ←
    match v with
    | .text s => pure [Value.text s]
    | .list vs => pure vs
    | .map es => pure (es.map Prod.fst)
    | _ => .error (.bare .unusable)
  if given.any (!·.isKey) then .error (.bare .unusable)
  match valid? (distinct given) with
  | some (a :: as) => return a :: as
  | _ => .error (.misuse (.emptyAliases owner))

end ChatCommands.Alias
