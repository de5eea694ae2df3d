import ChatCommands.Fault

/-!
# Acts and the journal

An act runs on the state of the host: it may change the state and it ends with a value or an error.
The state survives an error. Whatever the library does of note is told to the host's journal.
-/

namespace ChatCommands

/-- The part of the library that notes something. -/
inductive Source
  | grammar
  | patterns
  | commands
  | pipeline
  deriving DecidableEq, Repr

/-- The name of a part of the library. -/
def Source.name : Source → String
  | grammar => "grammar"
  | patterns => "patterns"
  | commands => "commands"
  | pipeline => "pipeline"

/-- How much a note matters. -/
inductive Level
  | debug
  | info
  | warning
  | error
  deriving DecidableEq, Repr

/-- The name of a level. -/
def Level.name : Level → String
  | debug => "DEBUG"
  | info => "INFO"
  | warning => "WARNING"
  | error => "ERROR"

/-- What is told to the journal. -/
structure Note where
  source : Source
  level : Level
  message : String
  deriving DecidableEq, Repr

/-- A host state that takes notes. -/
class Journal (σ : Type) where
  note : Note → σ → σ

/-- A host state takes notes also where another state stands beside it. -/
instance {ρ σ : Type} [Journal σ] : Journal (ρ × σ) where
  note n := fun (r, s) => (r, Journal.note n s)

/-- A computation on a host state that ends with a value or an error. -/
abbrev Act (σ α : Type) := ExceptT Error (StateM σ) α

namespace Act

variable {σ α : Type}

/-- Runs an act. -/
def on (a : Act σ α) (s : σ) : Except Error α × σ := ExceptT.run a s

/-- The act of a state change that may end with an error. -/
def of (f : σ → Except Error α × σ) : Act σ α := f

/-- The act that ends as a result says, without effect. -/
def ofExcept (r : Except Error α) : Act σ α := of fun s => (r, s)

/-- The act that ends with an error. -/
def fail (e : Error) : Act σ α := of fun s => (.error e, s)

/-- Runs an act to its end; an error of the act is a value then. -/
def attempt (a : Act σ α) : Act σ (Except Error α) :=
  of fun s =>
    let (r, s) := a.on s
    (.ok r, s)

/-- Tells the journal something. -/
def note [Journal σ] (source : Source) (level : Level) (message : String) : Act σ Unit :=
  of fun s => (.ok (), Journal.note ⟨source, level, message⟩ s)

/-- An act beside a second state, which it leaves as it is. -/
def beside {ρ : Type} (a : Act σ α) : Act (ρ × σ) α :=
  of fun (r, s) =>
    let (result, s) := a.on s
    (result, r, s)

/-! ### Laws -/

@[simp] theorem on_of (f : σ → Except Error α × σ) (s : σ) : (of f).on s = f s := rfl

@[simp] theorem on_pure (a : α) (s : σ) : (pure a : Act σ α).on s = (.ok a, s) := rfl

@[simp] theorem on_fail (e : Error) (s : σ) : (fail e : Act σ α).on s = (.error e, s) := rfl

@[simp] theorem on_ofExcept (r : Except Error α) (s : σ) : (ofExcept r).on s = (r, s) := rfl

@[simp] theorem on_attempt (a : Act σ α) (s : σ) :
    (attempt a).on s = (.ok (a.on s).1, (a.on s).2) := rfl

/-- One act after another: the second runs only if the first ends with a value. -/
@[simp] theorem on_bind {β : Type} (a : Act σ α) (f : α → Act σ β) (s : σ) :
    (a >>= f).on s =
      match a.on s with
      | (.ok x, s) => (f x).on s
      | (.error e, s) => (.error e, s) := by
  simp only [on, ExceptT.run, bind, ExceptT.bind, ExceptT.mk, StateT.bind]
  cases h : a s with
  | mk r s => cases r <;> rfl

end Act

end ChatCommands
