import ChatCommands.Handler.Phase

/-!
# Interceptors

At most one interceptor of the host runs in each phase. It is handed the context of the phase and
gives the context to go on with.
-/

namespace ChatCommands

/-- An interceptor of the host, with its text in messages. -/
structure Interceptor where
  id : Nat
  shown : String
  deriving DecidableEq, Repr

/-- What an interceptor gives back: a context, or something that is none, by its class. -/
inductive Intercepted
  | context (c : Context Command)
  | other (className : String)

/-- The interceptors by their phases. -/
structure Interceptors where
  entries : Table Phase Interceptor

namespace Interceptors

/-- No interceptors. -/
def empty : Interceptors := ⟨.empty⟩

instance : Inhabited Interceptors := ⟨empty⟩

/-- The interceptor of a phase. -/
def get? (t : Interceptors) (p : Phase) : Option Interceptor := t.entries.get? p

/-- A second interceptor for a phase. -/
def duplicate (first second : Interceptor) (p : Phase) : Error :=
  .fault (.make .duplicateInterceptor
    ("Interceptor " ++ first.shown ++ " is already registered for phase " ++ p.name ++
      ", compose it with " ++ second.shown ++ " instead") [("phase", .int p.number)])

/-- Registers an interceptor for phases, all of which have to be free. -/
def register (t : Interceptors) (interceptor : Option Interceptor) (phases : List (Option Phase)) :
    Except Error Interceptors := do
  let some i := interceptor | .error (.misuse .interceptorNotCallable)
  let some ps := phases.mapM id | .error (.misuse .noPhases)
  if ps.isEmpty then .error (.misuse .noPhases)
  match ps.findSome? fun p => (t.get? p).map fun first => (first, p) with
  | some (first, p) => .error (duplicate first i p)
  | none => return ⟨ps.foldl (fun entries p => entries.set p i) t.entries⟩

end Interceptors

end ChatCommands
