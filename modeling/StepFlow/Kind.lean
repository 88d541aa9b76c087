/-! The closed vocabularies of flows and runs, each with the names under which its members are
written. -/
namespace StepFlow

inductive ActionKind where
  | search | analyze | synthesize | compare | recommend | custom
deriving DecidableEq, Repr, Inhabited

inductive StepStatus where
  | running | success | failed
deriving DecidableEq, Repr, Inhabited

inductive RunState where
  | notStarted | running | completed | failed | cancelled
deriving DecidableEq, Repr, Inhabited

inductive ErrorKind where
  | capability | workerNotFound | stepTimeout | cancelled
deriving DecidableEq, Repr, Inhabited

inductive EventKind where
  | flowsLoaded | flowStart | stepStart | stepComplete | stepError | flowComplete | flowError
    | thinking
deriving DecidableEq, Repr, Inhabited

inductive OutputFormat where
  | structured | prose | report | markup
deriving DecidableEq, Repr, Inhabited

def member? {α : Type} (all : List α) (name : α → String) (s : String) : Option α :=
  all.find? fun a => name a == s

namespace ActionKind

def all : List ActionKind := [search, analyze, synthesize, compare, recommend, custom]

def name : ActionKind → String
  | search => "search"
  | analyze => "analyze"
  | synthesize => "synthesize"
  | compare => "compare"
  | recommend => "recommend"
  | custom => "custom"

def ofName? : String → Option ActionKind := member? all name

def role? : ActionKind → Option String
  | search => some "search"
  | analyze | synthesize => some "analysis"
  | _ => none

end ActionKind

namespace StepStatus

def name : StepStatus → String
  | running => "running"
  | success => "success"
  | failed => "failed"

def ofName? : String → Option StepStatus := member? [running, success, failed] name

end StepStatus

namespace RunState

def name : RunState → String
  | notStarted => "not_started"
  | running => "running"
  | completed => "completed"
  | failed => "failed"
  | cancelled => "cancelled"

def ofName? : String → Option RunState :=
  member? [notStarted, running, completed, failed, cancelled] name

def isTerminal : RunState → Bool
  | completed | failed | cancelled => true
  | _ => false

end RunState

namespace ErrorKind

def name : ErrorKind → String
  | capability => "CapabilityError"
  | workerNotFound => "WorkerNotFound"
  | stepTimeout => "StepTimeout"
  | cancelled => "Cancelled"

def ofName? : String → Option ErrorKind :=
  member? [capability, workerNotFound, stepTimeout, cancelled] name

end ErrorKind

namespace EventKind

def all : List EventKind :=
  [flowsLoaded, flowStart, stepStart, stepComplete, stepError, flowComplete, flowError, thinking]

def name : EventKind → String
  | flowsLoaded => "flows-loaded"
  | flowStart => "flow-start"
  | stepStart => "step-start"
  | stepComplete => "step-complete"
  | stepError => "step-error"
  | flowComplete => "flow-complete"
  | flowError => "flow-error"
  | thinking => "thinking"

def ofName? : String → Option EventKind := member? all name

end EventKind

namespace OutputFormat

def name : OutputFormat → String
  | structured => "structured"
  | prose => "prose"
  | report => "report"
  | markup => "markup"

def ofName? : String → Option OutputFormat := member? [structured, prose, report, markup] name

end OutputFormat
end StepFlow
