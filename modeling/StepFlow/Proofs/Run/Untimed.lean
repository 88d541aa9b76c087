import StepFlow.Proofs.Run.Shape

/-!
# Records without their times

The records of a run with every time set to the epoch and the id of the session left empty. Whatever
a run makes of its records, it makes the same of these.
-/
namespace StepFlow

namespace StepResult

def untimed (r : StepResult) : StepResult :=
  { r with
    startTime := .epoch
    endTime := r.endTime.map fun _ => .epoch
    duration := r.duration.map fun _ => Binary64.zero false }

theorem untimed_finish (r : StepResult) (status : StepStatus) :
    r.untimed.finish status = (r.finish status).map untimed := by
  unfold finish
  by_cases hrunning : r.status = .running
  · have hrunning' : r.untimed.status = .running := hrunning
    rw [if_pos hrunning, if_pos hrunning']
    rfl
  · have hrunning' : r.untimed.status ≠ .running := hrunning
    rw [if_neg hrunning, if_neg hrunning']
    rfl

theorem untimed_succeed (r : StepResult) (output : Value) :
    r.untimed.succeed output = ((r.succeed output).1, (r.succeed output).2.untimed) := by
  unfold succeed
  rw [untimed_finish]
  cases r.finish .success with
  | error fault => rfl
  | ok r =>
    cases output.sourcesAndConfidence with
    | error fault => rfl
    | ok found => rfl

theorem untimed_fail (r : StepResult) (text : Except Fault String) (typeName : String)
    (kind : ErrorKind) :
    r.untimed.fail text typeName kind = ((r.fail text typeName kind).1,
      (r.fail text typeName kind).2.untimed) := by
  unfold fail
  rw [untimed_finish]
  cases r.finish .failed with
  | error fault => rfl
  | ok r => cases text <;> rfl

end StepResult

theorem Executor.StepOutcome.apply_untimed (r : StepResult) (o : StepOutcome) :
    o.apply r.untimed = ((o.apply r).1, (o.apply r).2.untimed) := by
  cases o with
  | success output => exact r.untimed_succeed output
  | failure text typeName kind => exact r.untimed_fail text typeName kind

namespace Context

def untimed (c : Context) : Context :=
  { c with
    sessionId := ""
    results := c.results.map fun e => (e.1, e.2.untimed)
    startTime := c.startTime.map fun _ => .epoch
    endTime := c.endTime.map fun _ => .epoch }

theorem untimed_result? (c : Context) (id : String) :
    c.untimed.result? id = (c.result? id).map StepResult.untimed :=
  lookup_map _ id c.results

theorem inputFor_congr {c c' : Context}
    (houtput : ∀ id, (c.result? id).map StepResult.output = (c'.result? id).map StepResult.output)
    (hquery : c.query = c'.query) (hcaller : c.callerContext = c'.callerContext) (s : Step) :
    c.inputFor s = c'.inputFor s := by
  have hentry (id : String) : ((c.result? id).map fun r => (Value.text id, r.output)) =
      (c'.result? id).map fun r => (Value.text id, r.output) := by
    have h := congrArg (Option.map fun output => (Value.text id, output)) (houtput id)
    rw [Option.map_map, Option.map_map] at h
    exact h
  have hprevious (o : Option String) :
      (o.bind c.result?).map StepResult.output = (o.bind c'.result?).map StepResult.output := by
    cases o with
    | none => rfl
    | some id => exact houtput id
  unfold inputFor
  rw [hquery, hcaller, hprevious, funext hentry]

theorem untimed_inputFor (c : Context) (s : Step) : c.untimed.inputFor s = c.inputFor s := by
  have houtput (id : String) : (c.untimed.result? id).map StepResult.output =
      (c.result? id).map StepResult.output := by
    rw [untimed_result?, Option.map_map]
    rfl
  exact inputFor_congr houtput rfl rfl s

theorem untimed_keep (c : Context) (r : StepResult) :
    (c.keep r).untimed = c.untimed.keep r.untimed := by
  have hresults := assign_map StepResult.untimed r.stepId r c.results
  exact congrArg (fun results => { c.untimed with results, history := c.history ++ [r.stepId] })
    hresults.symm

end Context

def Payload.untimed : Payload → Payload
  | value v => value v
  | trace t => trace { t with timestamp := .epoch }
  | result r => result r.untimed
  | context c => context c.untimed

def Event.untimed (e : Event) : Event :=
  { e with
    sessionId := e.sessionId.map fun _ => ""
    data := e.data.map fun d => (d.1, d.2.untimed)
    timestamp := .epoch }

end StepFlow
