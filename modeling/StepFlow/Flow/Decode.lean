import StepFlow.Flow.Basic
import StepFlow.Schema.Coerce

/-! Definitions out of raw data. A field goes by a name with underscores or by one in camel case. -/
namespace StepFlow

open Schema Schema.Checked

def StepInputs.check (v : Value) : Checked StepInputs :=
  (model "StepInputs" v).andThen fun es =>
    StepInputs.mk <$> field es ["fromStep", "from_step"] none (optional text)
      <*> field es ["fromContext", "from_context"] none (optional (sequence text))

def Conditions.check (v : Value) : Checked Conditions :=
  (model "StepConditions" v).andThen fun es =>
    Conditions.mk <$> field es ["onSuccess", "on_success"] none (optional text)
      <*> field es ["onFailure", "on_failure"] none (optional text)
      <*> field es ["onNoResults", "on_no_results"] none (optional text)

def OutputSpec.check (v : Value) : Checked OutputSpec :=
  (model "OutputSpec" v).andThen fun es =>
    OutputSpec.mk <$> field es ["format"] OutputFormat.structured.name text
      <*> field es ["includeSources", "include_sources"] false boolean
      <*> field es ["title"] none (optional text)

/-- Any value as it is. -/
def anything (v : Value) : Checked Value := good v

def nullAs {α : Type} (w : Value) (check : Value → Checked α) : Value → Checked α
  | .null => check w
  | v => check v

def Step.check (v : Value) : Checked Step :=
  (model "FlowStep" v).andThen fun es =>
    Step.mk <$> required es "id" nonEmptyText
      <*> required es "action" Schema.action
      <*> field es ["prompt"] "" (nullAs (.text "") text)
      <*> field es ["config"] [] (nullAs (.mapping []) (table text anything))
      <*> field es ["worker_override", "workerOverride"] none (optional text)
      <*> field es ["timeout"] none (optional positive)
      <*> field es ["inputs"] none (optional StepInputs.check)
      <*> field es ["conditions"] none (optional Conditions.check)

def roleOfKey (key : Value) : Value :=
  match key with
  | .text "searchModel" => .text "search"
  | .text "analysisModel" => .text "analysis"
  | .text "primaryModel" => .text "primary"
  | key => key

/-- The preferences under their present names; those that count as false are left out. -/
def currentRoles : Value → Value
  | .mapping es =>
    .mapping (Entries.ofList ((es.filter fun e => e.2.isTruthy).map fun e => (roleOfKey e.1, e.2)))
  | v => v

/-- The names of the worker preferences, the first that is present counts. -/
def preferenceNames : List String := ["worker_preferences", "workerPreferences", "modelPreferences"]

def Flow.check (es : Entries) : Checked Flow :=
  Flow.mk <$> required es "id" nonEmptyText
    <*> field es ["name"] "" text
    <*> field es ["description"] none (optional text)
    <*> required es "steps" (sequence Step.check)
    <*> field es ["defaultStartStep", "default_start_step"] none (optional text)
    <*> field es preferenceNames [] (fun v => table text text (currentRoles v))
    <*> field es ["actionWorkers", "action_workers"] [] (table Schema.action text)
    <*> (.checked <$> field es ["output"] {} (nullAs (.mapping []) OutputSpec.check))

end StepFlow
