import StepFlow.Prompt.Input
import StepFlow.Run.Result
import StepFlow.Table

/-! The record of one run: its progress, the results of its steps and how it ended. -/
namespace StepFlow

/-- The record of a run. Results stand in the order of the first visits, the history in that of all
visits. -/
structure Context where
  flowId : String
  query : String := ""
  callerContext : Entries := []
  sessionId : String
  currentStep : Option String := none
  currentIndex : Nat := 0
  results : List (String × StepResult) := []
  history : List String := []
  state : RunState := .notStarted
  error : Option Value := none
  startTime : Option Moment := none
  endTime : Option Moment := none
deriving Repr, Inhabited

namespace Context

def isFinished (c : Context) : Bool := c.endTime.isSome

def result? (c : Context) (stepId : String) : Option StepResult := c.results.lookup stepId

def lastResult? (c : Context) : Option StepResult := c.history.getLast?.bind c.result?

def start (c : Context) (now : Moment) (step : String) : Except Fault Context :=
  if c.state = .notStarted then
    .ok { c with state := .running, startTime := some now, currentStep := some step }
  else .error (.runStarted c.sessionId)

/-- The context with a result; an earlier one of the same step gives way. -/
def keep (c : Context) (r : StepResult) : Context :=
  { c with results := assign r.stepId r c.results, history := c.history ++ [r.stepId] }

def record (c : Context) (r : StepResult) : Except Fault Context :=
  if c.isFinished then .error (.runFinished c.sessionId) else .ok (c.keep r)

def moveOn (c : Context) (following : Option String) : Context :=
  { c with currentStep := following, currentIndex := c.currentIndex + 1 }

def finish (c : Context) (now : Moment) (state : RunState) (error : Option Value) :
    Except Fault Context :=
  if c.isFinished then .error (.runFinished c.sessionId)
  else if state.isTerminal then .ok { c with state, error, endTime := some now }
  else .error (.notTerminal state)

def toValue (c : Context) : Value := .record [
  ("flow_id", .text c.flowId),
  ("session_id", .text c.sessionId),
  ("original_query", .text c.query),
  ("caller_context", .mapping c.callerContext),
  ("current_step_id", .optText c.currentStep),
  ("current_step_index", .int c.currentIndex),
  ("step_results", .record (c.results.map fun (id, r) => (id, r.toValue))),
  ("history", .texts c.history),
  ("state", .text c.state.name),
  ("error", c.error.getD .null),
  ("start_time", .ofOption (fun m => .text (m.toIso "T" false)) c.startTime),
  ("end_time", .ofOption (fun m => .text (m.toIso "T" false)) c.endTime)]

/-- What the step works on: the outputs of the steps that it names, as far as these have run. -/
def inputFor (c : Context) (s : Step) : StepInput where
  query := c.query
  callerContext := c.callerContext
  previous :=
    (((s.inputs.bind fun i => given? i.fromStep).bind c.result?).map StepResult.output).getD .null
  contextData := (s.inputs.bind StepInputs.fromContext).map fun ids =>
    Entries.ofList (ids.filterMap fun id => (c.result? id).map fun r => (.text id, r.output))

end Context
end StepFlow
