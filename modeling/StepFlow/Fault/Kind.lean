/-! The family of reported faults: its members, their names, and which of them end a run. -/
namespace StepFlow

/-- A member of the family. The root is known by a name of the reporter's choice. -/
inductive FaultKind where
  | general (name : String)
  | notFound
  | alreadyExists
  | validation
  | configuration
  | flowValidation
  | flowNotFound
  | stepNotFound
  | stepLimitExceeded
  | cancelled
  | workerNotFound
  | stepTimeout
  | unsupportedAction
deriving DecidableEq, Repr

namespace FaultKind

def members : List FaultKind :=
  [notFound, alreadyExists, validation, configuration, flowValidation, flowNotFound,
    stepNotFound, stepLimitExceeded, cancelled, workerNotFound, stepTimeout, unsupportedAction]

def label : FaultKind → String
  | general name => name
  | notFound => "NotFound"
  | alreadyExists => "Exists"
  | validation => "Validation"
  | configuration => "Configuration"
  | flowValidation => "FlowValidation"
  | flowNotFound => "FlowNotFound"
  | stepNotFound => "StepNotFound"
  | stepLimitExceeded => "StepLimitExceeded"
  | cancelled => "Cancelled"
  | workerNotFound => "WorkerNotFound"
  | stepTimeout => "StepTimeout"
  | unsupportedAction => "UnsupportedAction"

def typeName : FaultKind → String
  | general name => name
  | cancelled => "RunCancelledError"
  | kind => kind.label ++ "Error"

/-- The more general member that a member belongs to; none directly below the root. -/
def broader? : FaultKind → Option FaultKind
  | flowValidation => some validation
  | flowNotFound | stepNotFound | workerNotFound => some notFound
  | _ => none

def lineage : FaultKind → List FaultKind
  | general _ => []
  | kind => kind :: kind.broader?.toList

/-- Whether a fault of this kind ends the run that meets it. -/
def isFatal : FaultKind → Bool
  | flowNotFound | stepNotFound | stepLimitExceeded | cancelled => true
  | _ => false

def ofTypeName? (s : String) : Option FaultKind := members.find? fun k => k.typeName == s

end FaultKind
end StepFlow
