import StepFlow.Fault.Kind
import StepFlow.Kind
import StepFlow.Schema.Issue
import StepFlow.Text.Order
import StepFlow.Value.Literal

/-! Why an operation is refused: every cause, with the words in which it is reported. -/
namespace StepFlow

/-- A reference to a step, by the place that holds it. -/
inductive StepReference where
  | start (target : String)
  | condition (step target : String)
  | input (step target : String)
deriving DecidableEq, Repr

def StepReference.target : StepReference → String
  | .start t | .condition _ t | .input _ t => t

def StepReference.toValue : StepReference → Value
  | .start t => .record [("field", .text "default_start_step"), ("target", .text t)]
  | .condition s t =>
    .record [("step", .text s), ("field", .text "conditions"), ("target", .text t)]
  | .input s t => .record [("step", .text s), ("field", .text "inputs"), ("target", .text t)]

inductive Fault where
  -- runs
  | flowNotFound (flow : String) (available : List String)
  | stepNotFound (flow step : String)
  | stepLimit (flow : String) (limit : Int) (next : String)
  | cancelled (reason : Option String)
  | workerNotFound (worker : String) (available : List String)
  | stepTimeout (step : String) (seconds : Binary64)
  | unsupportedAction (worker : String) (action : ActionKind)
  | unregisteredAction (action : ActionKind) (available : List String)
  | runStarted (session : String)
  | runFinished (session : String)
  | notTerminal (state : RunState)
  | resultFinished (step : String) (status : StepStatus)
  -- registration
  | workerExists (worker : String)
  | flowExists (flow : String)
  | actionExists (action : ActionKind)
  | handlesNothing
  | noLoader
  -- flow definitions
  | flowNotMapping (id : Value) (idText : String) (found : String)
  | flowIssues (id : Value) (idText : String) (issues : List Schema.Issue)
  | noSteps (flow : String)
  | duplicateSteps (flow : String) (ids : List String)
  | danglingSteps (flow : String) (references : List StepReference)
  | configIssues (issues : List Schema.Issue)
  | partIssues (issues : List Schema.Issue)
  -- flow files
  | directoryNotFound (path : String)
  | fileNotUtf8
  | fileMalformed (name path : String)
  | fileNotMapping (name path : String)
  | flowsNotCollection (name path : String)
  | duplicateFlow (flow name path : String)
  | calendar (issue : CalendarIssue)
  -- values
  | text (defect : TextDefect)
  | intUnreadable (base : Nat) (literal : String)
  | intTooLong (digits : Nat)
  | intOfOther (type : String)
  | intOfNaN
  | intOfInfinity
  | realUnreadable (literal : String)
  | realOfOther (type : String)
  | realTooLarge
  | notIterable (type : String)
  | notCallable (type : String)
  | notMember (literal vocabulary : String)
  | unhashable (type : String)
  | notSequence (position : Nat)
  | notPair (position length : Nat)
  | noAttribute (type name : String)
  | momentUnreadable (given : String)
  | unwritableKey (type : String)
  | unknownName (name : String)
  | emptySequence
  | emptyText
  /-- Too many things inside each other; the kind is given for JSON. -/
  | nestedTooDeep (kind : Option String)
  | noSuchCharacter
  /-- The number of a character that is not even one of 31 bits. -/
  | hugeCharacter
  -- handlers and listeners
  | promptRequired
  | bufferNegative
  | bufferFractional
  -- reported by others
  | raised (kind : FaultKind) (message : String) (details : List (String × Value))
  | foreign (type : String) (message : Option String)
  /-- A failure that fails itself when its text is asked for: with the given reason, or else with a
  failure of the type after it that fails so in its turn. -/
  | textless (type reason : String) (next : Option String := none)
deriving Repr, Inhabited

namespace Fault

/-- The member of the family of reported faults; none for a failure from outside it. -/
def kind? : Fault → Option FaultKind
  | flowNotFound .. => some .flowNotFound
  | stepNotFound .. => some .stepNotFound
  | stepLimit .. => some .stepLimitExceeded
  | cancelled _ => some .cancelled
  | workerNotFound .. => some .workerNotFound
  | stepTimeout .. => some .stepTimeout
  | unsupportedAction .. | unregisteredAction .. => some .unsupportedAction
  | workerExists _ | flowExists _ => some .alreadyExists
  | flowNotMapping .. | flowIssues .. | noSteps _ | duplicateSteps .. | danglingSteps .. =>
    some .flowValidation
  | fileMalformed .. | fileNotMapping .. | flowsNotCollection .. | duplicateFlow .. =>
    some .flowValidation
  | configIssues _ | directoryNotFound _ => some .configuration
  | raised kind .. => some kind
  | _ => none

def outsideName : Fault → String
  | runStarted _ | runFinished _ | resultFinished .. | text (.unprintable _) => "RuntimeError"
  | partIssues _ => "ValidationError"
  | fileNotUtf8 => "UnicodeDecodeError"
  | intOfInfinity | realTooLarge | hugeCharacter => "OverflowError"
  | intOfOther _ | realOfOther _ | notIterable _ | notCallable _ | unhashable
    _ | notSequence _ | unwritableKey _ =>
    "TypeError"
  | nestedTooDeep _ => "RecursionError"
  | noAttribute .. => "AttributeError"
  | unknownName _ => "KeyError"
  | emptySequence | emptyText => "IndexError"
  | foreign type _ | textless type .. => type
  | _ => "ValueError"

def typeName (f : Fault) : String :=
  match f.kind? with
  | some kind => kind.typeName
  | none => f.outsideName

def isTimeout (f : Fault) : Bool := f.kind?.isNone && f.outsideName == "TimeoutError"

/-- The category in a report: the family's own, or else the type name. -/
def label (f : Fault) : String :=
  match f.kind? with
  | some kind => kind.label
  | none => f.outsideName

def named (s : String) : String := "'" ++ s ++ "'"

def digitLimit : String :=
  s!"Exceeds the limit ({Reading.maxDigits} digits) for integer string conversion"

def digitAdvice : String := "; use sys.set_int_max_str_digits() to increase the limit"

def message : Fault → String
  | flowNotFound flow _ => "Flow " ++ named flow ++ " not found"
  | stepNotFound flow step => "Step " ++ named step ++ " not found in flow " ++ named flow
  | stepLimit flow limit _ => "Flow " ++ named flow ++ s!" reached the limit of {limit} steps"
  | cancelled none => "Run cancelled"
  | cancelled (some reason) =>
    if reason.isEmpty then "Run cancelled" else "Run cancelled: " ++ reason
  | workerNotFound worker _ => "Worker " ++ named worker ++ " not registered"
  | stepTimeout step seconds =>
    "Step " ++ named step ++ " timed out after " ++ seconds.toText ++ "s"
  | unsupportedAction worker action =>
    "Worker " ++ named worker ++ " does not handle action " ++ named action.name
  | unregisteredAction action available =>
    "Action " ++ named action.name ++ " not registered. Available: " ++ Text.Quoted.list available
  | runStarted session => "Run " ++ session ++ " already started"
  | runFinished session => "Run " ++ session ++ " is finished"
  | notTerminal state => "Cannot finish run in non-terminal state " ++ state.name
  | resultFinished step status =>
    "Step result " ++ named step ++ " already finished as " ++ status.name
  | workerExists worker =>
    "Worker " ++ named worker ++ " already registered. Use update=True to replace."
  | flowExists flow => "Flow " ++ named flow ++ " already registered. Use update=True to replace."
  | actionExists action =>
    "Action " ++ named action.name ++ " already registered. Use override=True to replace."
  | handlesNothing => "handles() requires at least one action"
  | noLoader => "No flow loader configured"
  | flowNotMapping _ id found => "Flow " ++ named id ++ " must be a mapping, got " ++ found
  | flowIssues _ id issues =>
    "Flow " ++ named id ++ s!" failed validation: {issues.length} error(s)"
  | noSteps flow => "Flow " ++ named flow ++ " has no steps"
  | duplicateSteps flow ids =>
    "Flow " ++ named flow ++ " has duplicate step ids: " ++ Text.Quoted.list ids
  | danglingSteps flow references => "Flow " ++ named flow ++ " references unknown steps: " ++
      Text.Quoted.list (Text.sorted (references.map StepReference.target).eraseDups)
  | configIssues issues => s!"Invalid engine configuration: {issues.length} error(s)"
  | partIssues issues => s!"{issues.length} error(s)"
  | directoryNotFound path => "Flow directory not found: " ++ path
  | fileNotUtf8 => "the file is not encoded in UTF-8"
  | fileMalformed name _ => "Cannot parse flow file " ++ name
  | fileNotMapping name _ => "Flow file " ++ name ++ " must contain a mapping"
  | flowsNotCollection name _ => "'flows' in " ++ name ++ " must be a mapping or a list"
  | duplicateFlow flow name _ => "Duplicate flow id " ++ named flow ++ " in " ++ name
  | calendar issue => issue.message
  | text (.unprintable reason) => reason
  | text .tooManyDigits => digitLimit ++ digitAdvice
  | intUnreadable base literal =>
    s!"invalid literal for int() with base {base}: " ++ String.ofList (literal.toList.take 200)
  | intTooLong digits => digitLimit ++ s!": value has {digits} digits" ++ digitAdvice
  | intOfOther type =>
    "int() argument must be a string, a bytes-like object or a real number, not " ++ named type
  | intOfNaN => "cannot convert float NaN to integer"
  | intOfInfinity => "cannot convert float infinity to integer"
  | realUnreadable literal => "could not convert string to float: " ++ literal
  | realOfOther type => "float() argument must be a string or a real number, not " ++ named type
  | realTooLarge => "int too large to convert to float"
  | notIterable type => named type ++ " object is not iterable"
  | notCallable type => named type ++ " object is not callable"
  | notMember literal vocabulary => literal ++ " is not a valid " ++ vocabulary
  | unhashable type => "unhashable type: " ++ named type
  | notSequence position =>
    s!"cannot convert dictionary update sequence element #{position} to a sequence"
  | notPair position length =>
    s!"dictionary update sequence element #{position} has length {length}; 2 is required"
  | noAttribute type name => named type ++ " object has no attribute " ++ named name
  | momentUnreadable given => "Invalid isoformat string: " ++ Text.Quoted.ofString given
  | unwritableKey type => "keys must be str, int, float, bool or None, not " ++ type
  | unknownName name => Text.Quoted.ofString name
  | emptySequence => "tuple index out of range"
  | emptyText => "string index out of range"
  | nestedTooDeep none => "maximum recursion depth exceeded"
  | nestedTooDeep (some kind) =>
    "maximum recursion depth exceeded while decoding a JSON " ++ kind ++ " from a unicode string"
  | noSuchCharacter => "chr() arg not in range(0x110000)"
  | hugeCharacter => "Python int too large to convert to C int"
  | promptRequired => "Custom steps require a prompt"
  | bufferNegative => "max_buffer_size cannot be negative"
  | bufferFractional => "max_buffer_size must be either an integer or math.inf"
  | raised _ message _ => message
  | foreign type message => match message with
    | some s => if type = "KeyError" then Text.Quoted.ofString s else s
    | none => ""
  | textless .. => ""

def spoken : Fault → Except Fault String
  | textless _ reason none => .error (text (.unprintable reason))
  | textless _ reason (some type) => .error (textless type reason)
  | f => .ok f.message

/-- The circumstances that a report of the family lists beside the message. -/
def details : Fault → List (String × Value)
  | flowNotFound flow available => [("flow_id", .text flow), ("available", .texts available)]
  | stepNotFound flow step => [("flow_id", .text flow), ("step_id", .text step)]
  | stepLimit flow limit next =>
    [("flow_id", .text flow), ("max_steps", .int limit), ("next_step", .text next)]
  | cancelled reason => [("reason", .optText reason)]
  | workerNotFound worker available => [("worker", .text worker), ("available", .texts available)]
  | stepTimeout step seconds => [("step_id", .text step), ("timeout", .float seconds)]
  | unsupportedAction worker action => [("worker", .text worker), ("action", .text action.name)]
  | unregisteredAction action _ => [("action", .text action.name)]
  | workerExists worker => [("worker", .text worker)]
  | flowExists flow | noSteps flow => [("flow_id", .text flow)]
  | flowNotMapping id _ _ => [("flow_id", id)]
  | flowIssues id _ issues => [("flow_id", id), ("errors", .list (issues.map Schema.Issue.toValue))]
  | duplicateSteps flow ids => [("flow_id", .text flow), ("duplicates", .texts ids)]
  | danglingSteps flow references =>
    [("flow_id", .text flow), ("dangling", .list (references.map StepReference.toValue))]
  | configIssues issues => [("errors", .list (issues.map Schema.Issue.toValue))]
  | directoryNotFound path => [("directory", .text path)]
  | fileMalformed _ path | fileNotMapping _ path | flowsNotCollection _ path =>
    [("file", .text path)]
  | duplicateFlow flow _ path => [("flow_id", .text flow), ("file", .text path)]
  | raised _ _ details => details
  | _ => []

def report (f : Fault) : List (String × Value) :=
  [("kind", .text f.label), ("message", .text f.message), ("details", .record f.details)]

/-- The text that a failed step keeps: the message, or the type name where there is none. -/
def stepText (f : Fault) : String := if f.message.isEmpty then f.typeName else f.message

end Fault
end StepFlow
