import StepFlow.Run.Context

/-! Notices about the progress of runs. -/
namespace StepFlow

structure ThinkingTrace where
  stepId : String
  workerName : String
  kind : String
  content : String
  confidence : Value := .null
  timestamp : Moment := .epoch
deriving Repr, Inhabited

def ThinkingTrace.toValue (t : ThinkingTrace) : Value := .record <| [
  ("timestamp", .text (t.timestamp.toIso "T" false)),
  ("step_id", .text t.stepId),
  ("worker_name", .text t.workerName),
  ("kind", .text t.kind),
  ("content", .text t.content)] ++ if t.confidence.isNull then []
    else [("confidence", t.confidence)]

inductive Payload where
  | value (v : Value)
  | trace (t : ThinkingTrace)
  | result (r : StepResult)
  | context (c : Context)
deriving Repr, Inhabited

def Payload.toValue : Payload → Value
  | value v => v
  | trace t => t.toValue
  | result r => r.toValue
  | context c => c.toValue

structure Event where
  kind : EventKind
  flowId : Option String := none
  sessionId : Option String := none
  stepId : Option String := none
  /-- What it carries, in order. The names are texts, unless others were asked for. -/
  data : List (Value × Payload) := []
  timestamp : Moment := .epoch
deriving Repr, Inhabited

namespace Event

def named (data : List (String × Payload)) : List (Value × Payload) :=
  data.map fun (k, p) => (.text k, p)

def trace? (e : Event) : Option ThinkingTrace :=
  match (e.data.find? fun d => d.1.sameKey (.text "trace")).map Prod.snd with
  | some (.trace t) => some t
  | _ => none

/-- The event with something under a name: in place if the name is there, at the end otherwise. -/
def carrying (e : Event) (name : String) (p : Payload) : Event :=
  let isIt (d : Value × Payload) : Bool := d.1.sameKey (.text name)
  { e with data :=
    if e.data.any isIt then e.data.map fun d => if isIt d then (d.1, p) else d
    else e.data ++ [(.text name, p)] }

def toValue (e : Event) : Value := .record [
  ("kind", .text e.kind.name),
  ("flow_id", .optText e.flowId),
  ("session_id", .optText e.sessionId),
  ("step_id", .optText e.stepId),
  ("data", .mapping (e.data.map fun (k, p) => (k, p.toValue))),
  ("timestamp", .text (e.timestamp.toIso "T" false))]

end Event
end StepFlow
