import StepFlow.Fault.Basic
import StepFlow.Flow.Basic

/-! Finding steps of a flow. Where an id is repeated, the last step that has it counts. -/
namespace StepFlow

def lastIndex? {α : Type} (p : α → Bool) : List α → Option Nat
  | [] => none
  | x :: xs => match lastIndex? p xs with
    | some i => some (i + 1)
    | none => if p x then some 0 else none

namespace Flow

def indexOf? (f : Flow) (id : String) : Option Nat := lastIndex? (fun s => s.id == id) f.steps

def step? (f : Flow) (id : String) : Option Step := (f.indexOf? id).bind fun i => f.steps[i]?

def stepAfter? (f : Flow) (id : String) : Option Step :=
  (f.indexOf? id).bind fun i => f.steps[i + 1]?

/-- The id of the step that a run starts with. Only a flow without steps has none. -/
def start (f : Flow) : Except Fault String :=
  match f.defaultStart, f.steps with
  | some id, _ => .ok id
  | none, step :: _ => .ok step.id
  | none, [] => .error .emptySequence

end Flow
end StepFlow
