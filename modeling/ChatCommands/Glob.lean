import ChatCommands.Glob.Expr
import ChatCommands.Journal
import ChatCommands.Pattern.Expr

/-!
# Globs of module names

A glob names modules by a dotted pattern. In a segment, `*` stands for any characters, `?` for one
character and brackets for one character of a class; a segment `**` stands for any number of whole
segments. A glob starts with a segment that names a package.
-/

namespace ChatCommands.Glob

/-! ### Segments -/

/-- The parts of a text between separators. -/
def splitOn (separator : Char) : List Char → List (List Char)
  | [] => [[]]
  | c :: cs =>
    match splitOn separator cs with
    | [] => [[c]]
    | part :: parts => if c = separator then [] :: part :: parts else (c :: part) :: parts

/-- A dotted name of segments. -/
def dotted (segments : List (List Char)) : List Char := List.intercalate ['.'] segments

/-- Whether a text is a name: word characters, of which the first is no digit. -/
def isName (cs : List Char) : Bool :=
  match cs with
  | [] => false
  | c :: _ => !Text.digits.mem c && cs.all Text.wordChars.mem

/-! ### Expressions of globs -/

/-- The text of a run of characters that are no dots. -/
def runText : List Char := "[^.]*".toList

/-- The text of one character that is no dot. -/
def oneText : List Char := "[^.]".toList

/-- The content of a class that starts here and what follows its bracket, if it is closed. An
escaped bracket does not close it. -/
def classContent? : List Char → Option (List Char × List Char)
  | [] => none
  | ']' :: rest => some ([], rest)
  | '\\' :: c :: rest =>
    (classContent? rest).map fun (content, after) => ('\\' :: c :: content, after)
  | c :: rest => (classContent? rest).map fun (content, after) => (c :: content, after)

/-- The mark of a negated class, and what follows it. -/
def classMark : List Char → List Char × List Char
  | '!' :: rest | '^' :: rest => (['^'], rest)
  | rest => ([], rest)

/-- What follows a class is shorter than the class with what follows it. -/
theorem classContent?_length {cs content after : List Char}
    (h : classContent? cs = some (content, after)) : after.length < cs.length := by
  fun_induction classContent? cs generalizing content after with
  | case1 => simp at h
  | case2 rest => simp at h; simp [← h.2]
  | case3 c rest ih =>
    obtain ⟨⟨content', after'⟩, h', e⟩ := Option.map_eq_some_iff.1 h
    have := ih h'
    simp at e
    simp [← e.2]
    omega
  | case4 c rest _ _ ih =>
    obtain ⟨⟨content', after'⟩, h', e⟩ := Option.map_eq_some_iff.1 h
    have := ih h'
    simp at e
    simp [← e.2]
    omega

theorem classMark_length (cs : List Char) : (classMark cs).2.length ≤ cs.length := by
  unfold classMark
  split <;> simp

/-- The text of a segment of a glob. A class without end is a plain bracket. -/
def segmentText (cs : List Char) : List Char :=
  match cs with
  | [] => []
  | '\\' :: c :: rest => Pattern.Expr.escape [c] ++ segmentText rest
  | '*' :: rest => runText ++ segmentText rest
  | '?' :: rest => oneText ++ segmentText rest
  | '[' :: rest =>
    match h : classContent? (classMark rest).2 with
    | none => '\\' :: '[' :: segmentText rest
    | some (content, after) =>
      have : after.length < rest.length :=
        Nat.lt_of_lt_of_le (classContent?_length h) (classMark_length rest)
      '[' :: (classMark rest).1 ++ content ++ ']' :: segmentText after
  | c :: rest => Pattern.Expr.escape [c] ++ segmentText rest
termination_by cs.length

/-- Whether a segment stands for any number of segments. -/
def isSpan (segment : List Char) : Bool := segment = ['*', '*']

/-- The text of the segments of a glob, each with a dot before it. -/
def segmentsText (segments : List (List Char)) : List Char :=
  segments.flatMap fun segment =>
    if isSpan segment then Piece.segmentsText else '\\' :: '.' :: segmentText segment

/-- The text of a glob; the first segment has no dot before it. -/
def text (glob : List Char) : List Char :=
  match splitOn '.' glob with
  | segment :: rest =>
    if isSpan segment then segmentsText (segment :: rest)
    else segmentText segment ++ segmentsText rest
  | [] => []

/-- The pieces of a glob; a malformed class is an error. -/
def pieces [CharNames] (glob : List Char) : Except Error (List Piece) :=
  match Piece.read? (text glob) with
  | some ps => .ok ps
  | none => .error (.bare .badPattern)

/-! ### Expansion -/

variable {σ : Type}

/-- A module that the host has. -/
structure Entry where
  name : String
  isPackage : Bool
  deriving DecidableEq, Repr

/-- The name of a module in a package, if it stands directly in the package. -/
def isChild (package : List Char) (name : List Char) : Bool :=
  match splitOn '.' name with
  | [] => false
  | segments => dotted segments.dropLast = package && segments.length ≥ 2

/-- The modules that stand directly in a package, by name. -/
def children (entries : List Entry) (package : String) : List Entry :=
  (entries.filter fun e => isChild package.toList e.name.toList).mergeSort
    fun a b => a.name ≤ b.name

/-- The names of the modules in a package at any depth. Each package in it is loaded to look into
it; one that is missing then is passed over. `fuel` bounds the depth. -/
def walk (entries : List Entry) (load : String → Act σ Unit) :
    (fuel : Nat) → String → Act σ (List String)
  | 0, _ => return []
  | fuel + 1, package => do
    let found ← (children entries package).mapM fun e => do
      if e.isPackage then
        match ← (load e.name).attempt with
        | .ok () => return e.name :: (← walk entries load fuel e.name)
        | .error (.bare .missingModule) => return [e.name]
        | .error err => Act.fail err
      else return [e.name]
    return found.flatten

/-- Names without repetition, in order. -/
def sorted (names : List String) : List String :=
  ((names.foldl (fun kept n => if kept.contains n then kept else n :: kept) []).mergeSort
    fun a b => a ≤ b)

/-- The names of the modules that a glob stands for. A glob without wildcards stands for itself,
whether there is such a module or not; otherwise the leading package is loaded and looked into. -/
def expand [CharNames] (entries : List Entry) (load : String → Act σ Unit) (source : Value) :
    Act σ (List String) := do
  let .text source := source | Act.fail (.misuse .globNotText)
  let glob := Text.trim source.toList
  if glob.isEmpty then Act.fail (.misuse .globEmpty)
  let segments := splitOn '.' glob
  let leading := segments.takeWhile isName
  if leading.length = segments.length then return [String.ofList glob]
  if leading.isEmpty then Act.fail (.misuse .globWithoutPackage)
  let package := String.ofList (dotted leading)
  match ← (load package).attempt with
  | .error (.bare .missingModule) => return []
  | .error e => Act.fail e
  | .ok () =>
    let pieces ← Act.ofExcept (pieces glob)
    let isPackage := entries.any fun e => e.name = package && e.isPackage
    let inside ← if isPackage then walk entries load entries.length package else pure []
    return sorted ((package :: inside).filter fun name => Piece.fits pieces name.toList)

end ChatCommands.Glob
