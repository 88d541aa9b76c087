import StepFlow.Config
import StepFlow.Vocabulary

/-! The choice of a worker for a step: the first of six rules that names one. -/
namespace StepFlow

inductive SelectionRule where
  | override
  | role (name : String)
  | flowTable
  | engineTable
  | primary
  | default
deriving DecidableEq, Repr

def SelectionRule.name : SelectionRule → String
  | override => "override"
  | role r => "role:" ++ r
  | flowTable => "flow action table"
  | engineTable => "engine action table"
  | primary => "primary"
  | default => "default"

/-- What a selection depends on beside the flow: the default worker and a table of workers by flow
and action. -/
structure Selector where
  defaultWorker : String := "default"
  table : List (String × List (ActionKind × String)) := []
deriving Repr, Inhabited

namespace Selector

def ofConfig (c : Config) : Selector := ⟨c.defaultWorker, c.actionWorkers⟩

def candidates (sel : Selector) (s : Step) (f : Flow) : List (SelectionRule × Option String) :=
  [(.override, s.workerOverride)] ++
    (s.action.role?.map fun r => (.role r, f.workerPreferences.lookup r)).toList ++
    [(.flowTable, f.actionWorkers.lookup s.action),
      (.engineTable, (sel.table.lookup f.id).bind (·.lookup s.action)),
      (.primary, f.workerPreferences.lookup "primary")]

def pick (sel : Selector) (s : Step) (f : Flow) : SelectionRule × String :=
  ((sel.candidates s f).findSome? fun (rule, name) => (given? name).map (rule, ·)).getD
    (.default, sel.defaultWorker)

def select (sel : Selector) (s : Step) (f : Flow) : String := (sel.pick s f).2

def note (sel : Selector) (s : Step) (f : Flow) : String :=
  let (rule, worker) := sel.pick s f
  "Step '" ++ s.id ++ "' (" ++ s.action.name ++ ") -> worker '" ++
    worker ++ "' [" ++ rule.name ++ "]"

def describe (sel : Selector) : String :=
  "CapabilitySelector(default_worker=" ++ Text.Quoted.ofString sel.defaultWorker ++ ", flows=" ++
    Text.Quoted.list (Text.sorted (sel.table.map Prod.fst)) ++ ")"

def parseTable (data : Value) : Except Fault (List (String × List (ActionKind × String))) := do
  (← if data.isTruthy then data.ownEntries else .ok []).mapM fun (flow, actions) => do
    let row ← (← actions.ownEntries).mapM fun (a, w) => do
      return (← ActionKind.ofValue a, (Flow.plainText? (some w)).getD "")
    return (← flow.toText, row)

end Selector
end StepFlow
