import StepFlow.Flow.Lookup
import StepFlow.Value.Access

/-! Where a run goes on after a step. -/
namespace StepFlow

namespace Conditions

/-- The target of the first condition that applies. Without results to show, a step that did not
take its own target may take the third. The results are only looked at where there is one. -/
def target? (c : Conditions) (status : StepStatus) (output : Value) :
    Except Fault (Option String) :=
  match status, given? c.onSuccess, given? c.onFailure, given? c.onNoResults with
  | .success, some t, _, _ => .ok (some t)
  | .failed, _, some t, _ => .ok (some t)
  | _, _, _, some t => do return if ← output.hasEmptyResults then some t else none
  | _, _, _, none => .ok none

end Conditions

/-- The step to run next: the one declared next where the step has no conditions, the target that
applies where it has; none ends the run. It cannot be told where the results that decide it cannot
be counted. -/
def nextStep (s : Step) (status : StepStatus) (output : Value) (f : Flow) :
    Except Fault (Option String) :=
  match s.conditions with
  | none => .ok ((f.stepAfter? s.id).map Step.id)
  | some c => (c.target? status output).map fun target =>
    target.bind fun t => if t = endTarget then none else some t

end StepFlow
