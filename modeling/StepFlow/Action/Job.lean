import StepFlow.Action.Request
import StepFlow.Prompt.Template

/-! What handlers do: they may leave notes, ask the worker, and end with an output or a fault. -/
namespace StepFlow

/-- The course of a handler: what it does next, and how it goes on from a worker's reply. -/
inductive Job where
  | finish (output : Value)
  | fail (fault : Fault)
  | think (kind content : String) (confidence : Value) (rest : Job)
  | ask (request : Request) (next : Value → Job)

structure ActionContext where
  step : Step
  prompt : String := ""
  values : Entries := []

namespace Job

def ofExcept {α : Type} (x : Except Fault α) (next : α → Job) : Job :=
  match x with
  | .ok a => next a
  | .error f => fail f

def forward (r : Request) : Job := ask r finish

end Job

structure Handler where
  name : String
  job : StepInput → ActionContext → Job

end StepFlow
