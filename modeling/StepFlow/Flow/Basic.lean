import StepFlow.Kind
import StepFlow.Value.Basic

/-! Flow definitions: ordered steps, the earlier results that they use, and the transitions between
them. -/
namespace StepFlow

def endTarget : String := "end"

structure StepInputs where
  fromStep : Option String := none
  fromContext : Option (List String) := none
deriving DecidableEq, Repr, Inhabited

def given? : Option String → Option String
  | some s => if s.isEmpty then none else some s
  | none => none

def StepInputs.referencedIds (i : StepInputs) : List String :=
  (given? i.fromStep).toList ++ i.fromContext.getD []

structure Conditions where
  onSuccess : Option String := none
  onFailure : Option String := none
  onNoResults : Option String := none
deriving DecidableEq, Repr, Inhabited

def Conditions.targets (c : Conditions) : List String :=
  [c.onSuccess, c.onFailure, c.onNoResults].filterMap fun t =>
    if t = some endTarget then none else t

/-- How the last output of a run is presented. The format may be unknown. -/
structure OutputSpec where
  format : String := OutputFormat.structured.name
  includeSources : Bool := false
  title : Option String := none
deriving DecidableEq, Repr, Inhabited

/-- How outputs are presented: by a specification, or by whatever was given in place of one. -/
inductive Presentation where
  | checked (spec : OutputSpec)
  | given (v : Value)
deriving Repr, Inhabited

structure Step where
  id : String
  action : ActionKind
  prompt : String := ""
  config : List (String × Value) := []
  workerOverride : Option String := none
  timeout : Option Binary64 := none
  inputs : Option StepInputs := none
  conditions : Option Conditions := none
deriving Repr, Inhabited

/-- A flow. Preferences assign workers to roles, the action table assigns them to actions. -/
structure Flow where
  id : String
  name : String := ""
  description : Option String := none
  steps : List Step
  defaultStart : Option String := none
  workerPreferences : List (String × String) := []
  actionWorkers : List (ActionKind × String) := []
  output : Presentation := .checked {}
deriving Repr, Inhabited

namespace Flow

def stepIds (f : Flow) : List String := f.steps.map Step.id

end Flow
end StepFlow
