import StepFlow.Fault.Basic
import StepFlow.Flow.Basic

/-! The references between the steps of a flow: every id is declared once, and every reference names
a declared id. -/
namespace StepFlow.Flow

/-- The ids that already stand earlier in the list, one entry for each repetition. -/
def repeated (seen : List String) : List String → List String
  | [] => []
  | id :: ids => if id ∈ seen then id :: repeated seen ids else repeated (id :: seen) ids

def stepReferences (s : Step) : List StepReference :=
  ((s.conditions.map Conditions.targets).getD []).map (.condition s.id) ++
    ((s.inputs.map StepInputs.referencedIds).getD []).map (.input s.id)

def references (f : Flow) : List StepReference :=
  (f.defaultStart.map StepReference.start).toList ++ f.steps.flatMap stepReferences

def danglingReferences (f : Flow) : List StepReference :=
  f.references.filter fun r => !f.stepIds.contains r.target

/-- Accepts a flow that has steps, none of them declared twice, and no dangling reference. -/
def checkReferences (f : Flow) : Except Fault Flow :=
  if f.steps.isEmpty then .error (.noSteps f.id)
  else if (repeated [] f.stepIds) ≠ [] then .error (.duplicateSteps f.id (repeated [] f.stepIds))
  else if f.danglingReferences.isEmpty then .ok f
  else .error (.danglingSteps f.id f.danglingReferences)

end StepFlow.Flow
