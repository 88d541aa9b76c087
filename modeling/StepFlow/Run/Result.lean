import StepFlow.Value.Access

/-! The outcome of one execution of a step. A result is running until it succeeds or fails, once. -/
namespace StepFlow

structure StepResult where
  stepId : String
  action : ActionKind
  status : StepStatus := .running
  startTime : Moment
  endTime : Option Moment := none
  duration : Option Binary64 := none
  output : Value := .null
  error : Option String := none
  errorKind : Option ErrorKind := none
  worker : Option String := none
  sources : Value := .null
  confidence : Value := .null
deriving Repr, Inhabited

namespace StepResult

def succeeded (r : StepResult) : Bool := r.status == .success

def failed (r : StepResult) : Bool := r.status == .failed

/-- Ends a running result. Between its start and its end the clock stands still. -/
def finish (r : StepResult) (status : StepStatus) : Except Fault StepResult :=
  if r.status = .running then
    .ok { r with status, endTime := some r.startTime, duration := some (Binary64.zero false) }
  else .error (.resultFinished r.stepId r.status)

/-- Ends a running result with an output, and keeps the sources and the confidence that it offers.
Where it fails to offer them it is kept alone. -/
def succeed (r : StepResult) (output : Value) : Except Fault Unit × StepResult :=
  match r.finish .success with
  | .error fault => (.error fault, r)
  | .ok r =>
    match output.sourcesAndConfidence with
    | .error fault => (.error fault, { r with output })
    | .ok (sources, confidence) => (.ok (), { r with output, sources, confidence })

/-- Ends a running result with an error text, if there is one. Where it is empty the name of its
type stands in. -/
def fail (r : StepResult) (text : Except Fault String) (typeName : String) (kind : ErrorKind) :
    Except Fault Unit × StepResult :=
  match r.finish .failed with
  | .error fault => (.error fault, r)
  | .ok r =>
    match text with
    | .error fault => (.error fault, r)
    | .ok text =>
      (.ok (),
        { r with error := some (if text.isEmpty then typeName else text), errorKind := some kind })

def toValue (r : StepResult) : Value := .record [
  ("step_id", .text r.stepId),
  ("action", .text r.action.name),
  ("status", .text r.status.name),
  ("start_time", .text (r.startTime.toIso "T" false)),
  ("end_time", .ofOption (fun m => .text (m.toIso "T" false)) r.endTime),
  ("duration_ms", .ofOption .float r.duration),
  ("output", r.output),
  ("error", .optText r.error),
  ("error_kind", .ofOption (fun k => .text k.name) r.errorKind),
  ("worker", .optText r.worker),
  ("sources", r.sources),
  ("confidence", r.confidence)]

end StepResult
end StepFlow
