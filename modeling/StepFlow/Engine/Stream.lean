import StepFlow.Engine.Basic
import StepFlow.Output.Frame
import StepFlow.Output.Render

/-! A run as a stream: its start, its result and its end, or an error that ends it. -/
namespace StepFlow

structure Stream where
  events : List StreamEvent
  broken : Option Fault := none

namespace Engine
variable {σ : Type}

/-- The events after a run that has come to its end: the last output, rendered for the flow, and the
context. -/
def closing (f : Flow) (c : Context) : Stream :=
  let complete := StreamEvent.ofFields "flow-complete" [("context", c.toValue)]
  match c.lastResult? with
  | none => ⟨[complete], none⟩
  | some last =>
    if last.output.isNull then ⟨[complete], none⟩
    else match f.output.spec?.bind fun spec => Output.format last.output spec c.endTime with
      | .error fault => ⟨[], some fault⟩
      | .ok output =>
        ⟨[.ofFields "result" [("step_id", .text last.stepId), ("output", output)], complete], none⟩

def stream (e : Engine σ) (o : Order) (w : World σ) : Stream × World σ :=
  match e.require o.flow w with
  | (.error fault, w) => (⟨[.ofFault fault []], none⟩, w)
  | (.ok f, w) =>
    match o.context f with
    | .error fault => (⟨[], some fault⟩, w)
    | .ok c =>
      let started := StreamEvent.ofFields "flow-start"
        [("flow_id", .text f.id), ("session_id", .text c.sessionId), ("query", .text o.query)]
      match e.runOn f o.token c w with
      | (.error fault, c, w) =>
        (⟨[started, .ofFault fault [(.text "session_id", .text c.sessionId)]], none⟩, w)
      | (.ok (), c, w) =>
        let rest := closing f c
        (⟨started :: rest.events, rest.broken⟩, w)

end Engine
end StepFlow
