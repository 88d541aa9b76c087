import StepFlow.Flow.Basic
import StepFlow.Value.Access

/-! The data that a step works on. -/
namespace StepFlow

structure StepInput where
  query : String := ""
  callerContext : Entries := []
  previous : Value := .null
  contextData : Option Entries := none
deriving Repr, Inhabited

namespace StepInput

/-- The values that a template can name: the caller's own, overlaid with those of the run. -/
def values (i : StepInput) : Entries :=
  let es := Entries.insert i.callerContext (.text "query") (.text i.query)
  let es := Entries.insert es (.text "caller_context") (.mapping i.callerContext)
  let es := if i.previous.isNull then es else Entries.insert es
    (.text "previous_step_data") i.previous
  match i.contextData with
  | none => es
  | some data => Entries.insert es (.text "context_data") (.mapping data)

/-- The previous data, then each value of the context data; a list or a tuple among these gives its
items. -/
def gatherSources (i : StepInput) : List Value :=
  (if i.previous.isNull then [] else [i.previous]) ++ (i.contextData.getD []).flatMap fun (_, v) =>
    match v with
    | .list xs | .tuple xs => xs
    | v => [v]

end StepInput
end StepFlow
