import StepFlow.Action.Builtin
import StepFlow.Table

/-! The handlers that are in use, by action. -/
namespace StepFlow

abbrev ActionRegistry := List (ActionKind × Handler)

namespace ActionRegistry

def ofKinds (kinds : List ActionKind) : ActionRegistry := kinds.map fun a => (a, Handler.builtin a)

def default : ActionRegistry := ofKinds ActionKind.all

def names (r : ActionRegistry) : List String := r.map fun e => e.1.name

/-- Puts a handler in use; one that is there gives way only on request. -/
def register (r : ActionRegistry) (action : ActionKind) (handler : Handler) (replace : Bool) :
    Except Fault ActionRegistry :=
  if hasKey action r ∧ ¬replace then .error (.actionExists action)
  else .ok (assign action handler r)

def get (r : ActionRegistry) (action : ActionKind) : Except Fault Handler :=
  match r.lookup action with
  | some h => .ok h
  | none => .error (.unregisteredAction action r.names)

def describe (r : ActionRegistry) : String :=
  "ActionRegistry(actions=" ++ Text.Quoted.list r.names ++ ")"

end ActionRegistry
end StepFlow
