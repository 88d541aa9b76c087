import StepFlow.Flow.Basic
import StepFlow.Text.Quoted

/-! A flow in one line. -/
namespace StepFlow

def Flow.describe (f : Flow) : String :=
  "Flow(id=" ++ Text.Quoted.ofString f.id ++ ", steps=" ++ Text.Quoted.list f.stepIds ++ ")"

end StepFlow
