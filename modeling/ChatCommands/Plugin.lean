import ChatCommands.Command
import ChatCommands.Glob

/-!
# Modules of the host

Commands may be defined in modules, which are loaded by name. Loading a module loads the packages
that it stands in and then runs what the module holds, once; a module that fails is loaded anew the
next time.
-/

namespace ChatCommands.Plugin

/-- What a name of a module stands for. -/
inductive Member
  | command (c : Command)
  /-- A class of commands, with the name of the module that defines it. -/
  | commandClass (c : CommandClass) (module : String)
  | other

/-- A statement of a module. -/
inductive Statement (σ : Type)
  /-- Binds a name to something new; a command that is made gets the number. -/
  | define (name : String) (make : Nat → Act σ Member)
  /-- Binds a name to what a name of another module stands for. -/
  | take (name module member : String)

/-- A module of the host. One with a failure cannot be loaded. -/
structure Module (σ : Type) where
  name : String
  isPackage : Bool
  failure : Option Error
  body : List (Statement σ)

/-- The modules loaded so far with their names bound so far, and the number of the next command. -/
structure Workspace where
  loaded : Table String (Table String Member)
  nextCommand : Nat

/-- The workspace before anything was loaded. -/
def Workspace.start : Workspace := ⟨.empty, 0⟩

instance : Inhabited Workspace := ⟨.start⟩

variable {σ : Type}

/-- A number for a new command. -/
def newNumber : Act (Workspace × σ) Nat :=
  modifyGet fun (w, s) => (w.nextCommand, { w with nextCommand := w.nextCommand + 1 }, s)

/-- Binds a name of a loaded module. -/
def bindName (module name : String) (m : Member) : Act (Workspace × σ) Unit :=
  modify fun (w, s) =>
    match w.loaded.get? module with
    | some names => ({ w with loaded := w.loaded.set module (names.set name m) }, s)
    | none => (w, s)

/-- Forgets a module that failed. -/
def unload (module : String) : Act (Workspace × σ) Unit :=
  modify fun (w, s) => ({ w with loaded := w.loaded.erase module }, s)

/-- A dotted name, and before it the names of the packages that it stands in. -/
def lineage (name : String) : List String :=
  let segments := Glob.splitOn '.' name.toList
  (List.range segments.length).map fun n => String.ofList (Glob.dotted (segments.take (n + 1)))

/-- The package that a module stands in, and the name of the module in it. -/
def place? (name : String) : Option (String × String) :=
  match (Glob.splitOn '.' name.toList).reverse with
  | last :: second :: rest =>
    some (String.ofList (Glob.dotted (second :: rest).reverse), String.ofList last)
  | _ => none

/-- The module of a name. A module can only stand in a package. -/
def find? (tree : List (Module σ)) (name : String) : Option (Module σ) := do
  if let some (package, _) := place? name then
    if tree.any fun m => m.name = package && !m.isPackage then none
  tree.find? (·.name = name)

/-- What a name of a loaded module stands for. -/
def lookUp (module name : String) : Act (Workspace × σ) Member := do
  let (w, _) ← get
  match (w.loaded.get? module).bind (·.get? name) with
  | some m => return m
  | none => Act.fail (.bare .missingModule)

/-- Runs a statement of a module; `load` loads other modules. -/
def run (load : String → Act (Workspace × σ) Unit) (module : String) :
    Statement σ → Act (Workspace × σ) Unit
  | .define name make => do
    let number ← newNumber
    bindName module name (← Act.beside (make number))
  | .take name source member => do
    load source
    bindName module name (← lookUp source member)

/-- Loads one module whose package is loaded. -/
def loadOne (tree : List (Module σ)) (load : String → Act (Workspace × σ) Unit) (name : String) :
    Act (Workspace × σ) Unit := do
  let (w, _) ← get
  if w.loaded.contains name then return
  let some m := find? tree name | Act.fail (.bare .missingModule)
  set (({ w with loaded := w.loaded.set name .empty }, (← get).2) : Workspace × σ)
  let outcome ← (do
    if let some e := m.failure then Act.fail e
    m.body.forM (run load name) : Act (Workspace × σ) Unit).attempt
  match outcome with
  | .ok () =>
    if let some (package, child) := place? name then bindName package child .other
  | .error e =>
    unload name
    Act.fail e

/-- Loads a module and the packages that it stands in. `fuel` bounds how deep loading nests, which
the number of modules does, since a module that is being loaded is not loaded again. -/
def loadWithin (tree : List (Module σ)) : (fuel : Nat) → String → Act (Workspace × σ) Unit
  | 0, _ => Act.fail (.bare .missingModule)
  | fuel + 1, name => (lineage name).forM (loadOne tree (loadWithin tree fuel))

/-- Loads a module and the packages that it stands in. -/
def load (tree : List (Module σ)) (name : String) : Act (Workspace × σ) Unit :=
  loadWithin tree (tree.length + 1) name

/-- The modules as globs see them. -/
def entries (tree : List (Module σ)) : List Glob.Entry :=
  tree.map fun m => ⟨m.name, m.isPackage⟩

/-- The names of the modules that a glob stands for. -/
def expand [Glob.CharNames] (tree : List (Module σ)) (source : Value) :
    Act (Workspace × σ) (List String) :=
  Glob.expand (entries tree) (load tree) source

/-! ### Commands in modules -/

/-- The command of a member of a module: itself, or a new instance of a class that the module itself
defines and that has instances. -/
def commandOf (module : String) : Member → Act (Workspace × σ) (Option Command)
  | .command c => return some c
  | .commandClass c home =>
    if home = module && c.callback.isSome then do
      return some (← Act.ofExcept (c.instantiate (← newNumber)))
    else return none
  | .other => return none

/-- The commands of a loaded module, by the names they are bound to. -/
def commandsOf (module : String) : Act (Workspace × σ) (List Command) := do
  let (w, _) ← get
  let names := ((w.loaded.get? module).getD .empty).entries.mergeSort fun a b => a.1 ≤ b.1
  return (← names.mapM fun (_, m) => commandOf module m).reduceOption

/-- The commands of the modules that a glob stands for. -/
def commands [Glob.CharNames] (tree : List (Module σ)) (source : Value) :
    Act (Workspace × σ) (List Command) := do
  let .text _ := source | Act.fail (.misuse .sourceNotText)
  let modules ← expand tree source
  let found ← modules.mapM fun module => do
    match ← (load tree module).attempt with
    | .ok () => commandsOf module
    | .error (.bare .missingModule) => Act.fail (.misuse (.cannotImport module))
    | .error e => Act.fail e
  return found.flatten

end ChatCommands.Plugin
