import StepFlow.Run.Execute
import StepFlow.Transition

/-! The course of a run: step after step from the start to a terminal state. -/
namespace StepFlow

/-- What a step of a run comes to: another step, the end, or a fault that ends the run. -/
inductive Advance where
  | next (id : String)
  | complete
  | stop (f : Fault)

namespace Executor
variable {σ : Type}

def runEvent (kind : EventKind) (c : Context) (data : List (String × Payload)) (now : Moment)
    (stepId : Option String := none) : Event where
  kind
  flowId := some c.flowId
  sessionId := some c.sessionId
  stepId
  data := Event.named data
  timestamp := now

def departEvent (c : Context) (now : Moment) : Event :=
  runEvent .flowStart c [("query", .value (.text c.query))] now

def arrivalEvent (c : Context) (now : Moment) : Event :=
  runEvent .flowComplete c [("context", .context c)] now

def abortEvent (c : Context) (fault : Fault) (now : Moment) : Event :=
  runEvent .flowError c [("error", .value (.record fault.report))] now

def completeEvent (c : Context) (s : Step) (r : StepResult) (now : Moment) : Event :=
  runEvent .stepComplete c [("result", .result r)] now (some s.id)

def settleStep (f : Flow) (s : Step) (result : StepResult) (c : Context) (w : World σ) :
    Advance × Context × World σ :=
  match c.record result with
  | .error fault => (.stop fault, c, w)
  | .ok c =>
    match w.emit (completeEvent c s result w.now) with
    | (.error fault, w) => (.stop fault, c, w)
    | (.ok (), w) =>
      match w.checkToken with
      | .error fault => (.stop fault, c, w)
      | .ok () =>
        match nextStep s result.status result.output f with
        | .error fault => (.stop fault, c, w)
        | .ok (some id) => (.next id, c.moveOn (some id), w)
        | .ok none => (.complete, c.moveOn none, w)

/-- One step of a run. It is executed with its configuration as that reads by now. -/
def advance (x : Executor σ) (f : Flow) (current : String) (c : Context) (w : World σ) :
    Advance × Context × World σ :=
  match w.checkToken with
  | .error fault => (.stop fault, c, w)
  | .ok () =>
    match f.step? current with
    | none => (.stop (.stepNotFound f.id current), c, w)
    | some s =>
      match x.execute (x.present w s) f c w with
      | (.error fault, w) => (.stop fault, c, w)
      | (.ok result, w) => settleStep f s result c w

/-- Runs steps from the current one on; after this one at most `left` more may follow. -/
def walk (x : Executor σ) (f : Flow) (left : Nat) (current : String) (c : Context) (w : World σ) :
    Except Fault Unit × Context × World σ :=
  match x.advance f current c w with
  | (.stop fault, c, w) => (.error fault, c, w)
  | (.complete, c, w) => (.ok (), c, w)
  | (.next id, c, w) =>
    match left with
    | 0 => (.error (.stepLimit f.id x.config.maxSteps id), c, w)
    | left + 1 => walk x f left id c w

def depart (f : Flow) (c : Context) (w : World σ) : Except Fault String × Context × World σ :=
  match f.start with
  | .error fault => (.error fault, c, w)
  | .ok start =>
    match c.start w.now start with
    | .error fault => (.error fault, c, w)
    | .ok c =>
      match w.emit (departEvent c w.now) with
      | (.error fault, w) => (.error fault, c, w)
      | (.ok (), w) => (.ok start, c, w)

def stateAfter (fault : Fault) : RunState :=
  if fault.kind? = some .cancelled then .cancelled else .failed

/-- Ends a run that met a fault. The fault is kept in the context and announced. One that cannot
tell its text leaves the run as it is, and its own failure takes its place. -/
def abort (fault : Fault) (c : Context) (w : World σ) : Except Fault Unit × Context × World σ :=
  match fault.spoken with
  | .error own => (.error own, c, w)
  | .ok _ =>
    let c := (c.finish w.now (stateAfter fault) (some (.record fault.report))).toOption.getD c
    match w.emit (abortEvent c fault w.now) with
    | (.error f, w) => (.error f, c, w)
    | (.ok (), w) => (.error fault, c, w)

def complete (c : Context) (w : World σ) : Except Fault Unit × Context × World σ :=
  match c.finish w.now .completed none with
  | .error fault => (.error fault, c, w)
  | .ok c =>
    match w.emit (arrivalEvent c w.now) with
    | (.error fault, w) => (.error fault, c, w)
    | (.ok (), w) => (.ok (), c, w)

def close (result : Except Fault Unit) (c : Context) (w : World σ) :
    Except Fault Unit × Context × World σ :=
  match result with
  | .ok () => complete c w
  | .error fault => abort fault c w

def drive (x : Executor σ) (f : Flow) (c : Context) (w : World σ) :
    Except Fault Unit × Context × World σ :=
  match depart f c w with
  | (.error fault, c, w) => (.error fault, c, w)
  | (.ok start, c, w) =>
    let (result, c, w) := x.walk f (x.config.maxSteps.toNat - 1) start c w
    close result c w

def run (x : Executor σ) (f : Flow) (c : Context) (w : World σ) :
    Except Fault Unit × Context × World σ :=
  let (result, c, w) := x.drive f c w.openEmitter
  (result, c, w.closeEmitter)

end Executor
end StepFlow
