import ChatCommands.Fault

/-!
# Names of callbacks

Callbacks that are made on the fly are given a stable name. The name is given at once, or by a
decorator that names what it is applied to.
-/

namespace ChatCommands.Naming

/-- What naming is handed. -/
inductive Argument
  /-- Something that can be called; the name of some cannot be changed. -/
  | callback (isFixed : Bool)
  | text (name : String)
  | other
  deriving DecidableEq, Repr

/-- What naming gives. -/
inductive Named
  /-- The callback itself, by its new name. -/
  | callback (name : String)
  /-- A decorator that gives a name. -/
  | decorator (name : String)
  deriving DecidableEq, Repr

/-- The name of the decorator itself. -/
def decoratorName : String := "rename"

namespace Named

/-- The name that what naming gives has itself. -/
def ownName : Named → String
  | callback name => name
  | decorator _ => decoratorName

/-- Whether what naming gives is the callback that it was handed. -/
def isCallback : Named → Bool
  | callback _ => true
  | decorator _ => false

end Named

/-- Names a callback, or makes a decorator of a name. -/
def rename : List Argument → Except Error Named
  | [target, name] =>
    match target, name with
    | .callback isFixed, .text name =>
      if isFixed then .error (.misuse .renameFixed) else .ok (.callback name)
    | .callback _, _ => .error (.misuse .renameToOther)
    | _, _ => .error (.misuse .renameOfOther)
  | [.text name] => .ok (.decorator name)
  | [_] => .error (.misuse .renameDecoratorName)
  | arguments => .error (.misuse (.renameCount arguments.length))

/-- Applies a decorator that gives a name. -/
def decorate (name : String) (target : Argument) : Except Error Named :=
  match target with
  | .callback _ => rename [target, .text name]
  | _ => .error (.misuse .renameDecoratorTarget)

end ChatCommands.Naming
