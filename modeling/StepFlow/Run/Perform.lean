import StepFlow.Action.Registry
import StepFlow.Run.World

/-! Carrying out a handler's job: its notes are emitted, and its requests go to the worker of the
step. -/
namespace StepFlow

/-- How a job ends: with an output, with a fault, cut off by a cancellation, or cut off by its
deadline. -/
inductive Ending where
  | returned (output : Value)
  | failed (f : Fault)
  | interrupted
  | timedOut

def Reply.ending (r : Reply) : Ending :=
  match r.outcome with
  | .ok v => .returned v
  | .error f => .failed f

structure Circumstances where
  flowId : String
  sessionId : String
  step : Step
  /-- Whether the job's notes are emitted. -/
  emitThinking : Bool
  /-- The token's scope around the job. -/
  scope : Option Nat := none
  /-- Whether the job has a deadline. -/
  hasDeadline : Bool := false

namespace World
variable {σ : Type}

def think (w : World σ) (c : Circumstances) (worker kind content : String) (confidence : Value) :
    Except Fault Unit × World σ :=
  if c.emitThinking then
    w.emit {
      kind := .thinking, flowId := some c.flowId, sessionId := some c.sessionId, stepId :=
        some c.step.id
      data := Event.named [("trace", .trace ⟨c.step.id, worker, kind, content, confidence, w.now⟩)]
      timestamp := w.now }
  else (.ok (), w)

def heed (w : World σ) (r : Reply) : World σ :=
  match r.cancel with
  | some reason => w.cancel reason
  | none => w

/-- How a wait is cut off: by a cancellation that has reached the scope, or else by a deadline that
has passed. -/
def cutOff? (w : World σ) (c : Circumstances) : Option Ending :=
  if w.isReached c.scope then some .interrupted else if w.overdue then some .timedOut else none

/-- The wait for a reply. The consumers of events go on meanwhile, and the deadline passes if the
reply is late. -/
def wait (w : World σ) (c : Circumstances) (aside : Bool) (r : Reply) : World σ :=
  let w := if aside || r.late then w.settle else w
  { w with overdue := w.overdue || r.late && c.hasDeadline }

/-- How a reply ends the wait for it, which is cut off only where the worker runs aside, or is late
and yields. -/
def await (w : World σ) (c : Circumstances) (aside : Bool) (r : Reply) : Ending × World σ :=
  let w := (w.heed r).wait c aside r
  (if aside || r.late && !r.unyielding then (w.cutOff? c).getD r.ending else r.ending, w)

/-- How a call is cut off before it is made. A worker that does anything aside is waited for at
once. -/
def barred? (w : World σ) (c : Circumstances) (worker : Worker σ) : Option Ending :=
  if worker.capability.manner = .inline then none else w.cutOff? c

def call (w : World σ) (c : Circumstances) (worker : Worker σ) (answer : Answering σ)
    (invocation : Invocation) :
    Ending × World σ :=
  match w.barred? c worker with
  | some ending => (ending, w)
  | none =>
    let w := if worker.capability.manner = .prepared then w.settle else w
    let (reply, memory) := answer invocation w.memory
    let w : World σ := { w with memory, calls := w.calls ++ [⟨worker.name, invocation, reply⟩] }
    w.await c (worker.capability.manner = .aside) reply

/-- Asks a worker for an action. Where no configuration is given it gets an empty one. -/
def invoke (w : World σ) (c : Circumstances) (worker : Worker σ) (action : ActionKind)
    (request : Request) (config : Option (List (String × Value))) : Ending × World σ :=
  match worker.answering action with
  | .error f => (.failed f, w)
  | .ok answer => w.call c worker answer ⟨action, request, config.getD []⟩

def ask (w : World σ) (c : Circumstances) (worker : Worker σ) (request : Request) :
    Ending × World σ :=
  w.invoke c worker request.action request (some c.step.config)

def perform (c : Circumstances) (worker : Worker σ) : Job → World σ → Ending × World σ
  | .finish output, w => (.returned output, w)
  | .fail f, w => (.failed f, w)
  | .think kind content confidence rest, w =>
    match w.think c worker.name kind content confidence with
    | (.ok (), w) => perform c worker rest w
    | (.error f, w) => (.failed f, w)
  | .ask request next, w =>
    match w.ask c worker request with
    | (.returned v, w) => perform c worker (next v) w
    | (ending, w) => (ending, w)

end World
end StepFlow
