import StepFlow.Run.Perform
import StepFlow.Selection

/-! The execution of one step. Whatever goes wrong in the step is kept in its result. -/
namespace StepFlow

structure Executor (σ : Type) where
  config : Config := {}
  actions : ActionRegistry := ActionRegistry.default
  workers : WorkerRegistry σ
  selector : Selector := {}
  /-- How the configuration of a step reads, given what the workers have done so far. They are
  handed a copy of it whose inner values are the flow's own, and may change these. -/
  look : σ → List (String × Value) → List (String × Value) := fun _ config => config

namespace Executor
variable {σ : Type}

def timeoutFor (x : Executor σ) (s : Step) : Option Binary64 := s.timeout <|> x.config.stepTimeout

/-- The step as it reads by now. -/
def present (x : Executor σ) (w : World σ) (s : Step) : Step :=
  { s with config := x.look w.memory s.config }

def describe (x : Executor σ) : String :=
  "StepExecutor(actions=" ++ Text.Quoted.list x.actions.names ++ ", workers=" ++
    Text.Quoted.list x.workers.names ++ ")"

def stepEvent (kind : EventKind) (c : Context) (s : Step) (data : List (String × Payload))
    (now : Moment) : Event where
  kind
  flowId := some c.flowId
  sessionId := some c.sessionId
  stepId := some s.id
  data := Event.named data
  timestamp := now

def startEvent (c : Context) (s : Step) (now : Moment) : Event :=
  stepEvent .stepStart c s [("action", .value (.text s.action.name)),
    ("index", .value (.int c.currentIndex))] now

def errorEvent (c : Context) (s : Step) (r : StepResult) (now : Moment) : Event :=
  stepEvent .stepError c s [("error", .value (.optText r.error)),
    ("error_kind", .value (.ofOption (fun k => .text k.name) r.errorKind))] now

inductive StepOutcome where
  | success (output : Value)
  | failure (text : Except Fault String) (typeName : String) (kind : ErrorKind)

def StepOutcome.ofFault (f : Fault) (kind : ErrorKind) : StepOutcome :=
  .failure f.spoken f.typeName kind

/-- The outcome of a step that was cut off by a cancellation. -/
def StepOutcome.cancelled : StepOutcome := .failure (.ok "Step cancelled") "str" .cancelled

def StepOutcome.late (s : Step) (timeout : Option Binary64) : StepOutcome :=
  .ofFault (.stepTimeout s.id (timeout.getD .nan)) .stepTimeout

@[ext]
structure JobEnd where
  ending : Ending
  /-- A cancellation had reached its scope. -/
  reached : Bool
  /-- Its deadline had passed. -/
  overdue : Bool

/-- What the end of a job comes to. A failure to be in time counts as that of the deadline once this
has passed, and an output that comes after a cancellation is dropped. -/
def StepOutcome.ofEnd (s : Step) (timeout : Option Binary64) (e : JobEnd) : StepOutcome :=
  match e.ending with
  | .returned output => if e.reached then cancelled else .success output
  | .failed f => if e.overdue && f.isTimeout then late s timeout else .ofFault f .capability
  | .interrupted => cancelled
  | .timedOut => late s timeout

def StepOutcome.apply (r : StepResult) : StepOutcome → Except Fault Unit × StepResult
  | success output => r.succeed output
  | failure text typeName kind => r.fail text typeName kind

def carryOut (x : Executor σ) (s : Step) (f : Flow) (c : Context) (worker : Worker σ)
    (handler : Handler) (prompt : String) (w : World σ) : JobEnd × World σ :=
  let input := c.inputFor s
  let (scope, w) := w.enterScope
  let around : Circumstances :=
    ⟨f.id, c.sessionId, s, x.config.emitThinking, scope, (x.timeoutFor s).isSome⟩
  let (ending, w) := w.perform around worker (handler.job input ⟨s, prompt, input.values⟩)
  let w := w.leaveScope scope
  (⟨ending, w.isReached scope, w.overdue⟩, w)

def runHandler (x : Executor σ) (s : Step) (f : Flow) (c : Context) (worker : Worker σ)
    (handler : Handler) (w : World σ) : Except Fault StepOutcome × World σ :=
  match Template.interpolate s.prompt (c.inputFor s).values with
  | .error fault => (.error fault, w)
  | .ok prompt =>
    let (done, w) := x.carryOut s f c worker handler prompt w
    (.ok (StepOutcome.ofEnd s (x.timeoutFor s) done), w)

def outcome (x : Executor σ) (s : Step) (f : Flow) (c : Context) (w : World σ) :
    Except Fault StepOutcome × World σ :=
  match x.workers.get (x.selector.select s f) with
  | .error fault => (.ok (.ofFault fault .workerNotFound), w)
  | .ok worker =>
    match x.actions.get s.action with
    | .error fault => (.ok (.ofFault fault .capability), w)
    | .ok handler => x.runHandler s f c worker handler w

def begun (x : Executor σ) (s : Step) (f : Flow) (now : Moment) : StepResult where
  stepId := s.id
  action := s.action
  startTime := now
  worker := some (x.selector.select s f)

/-- Executes a step between its events. Only what happens outside the step itself is a fault: a
prompt, an error text or the sources of an output that cannot be made, or an event that cannot be
emitted. -/
def execute (x : Executor σ) (s : Step) (f : Flow) (c : Context) (w : World σ) :
    Except Fault StepResult × World σ :=
  match w.emit (startEvent c s w.now) with
  | (.error fault, w) => (.error fault, w)
  | (.ok (), w) =>
    match x.outcome s f c w with
    | (.error fault, w) => (.error fault, w)
    | (.ok outcome, w) =>
      match outcome.apply (x.begun s f w.now) with
      | (.error fault, _) => (.error fault, w)
      | (.ok (), result) =>
        if result.failed then
          match w.emit (errorEvent c s result w.now) with
          | (.error fault, w) => (.error fault, w)
          | (.ok (), w) => (.ok result, w)
        else (.ok result, w)

end Executor
end StepFlow
