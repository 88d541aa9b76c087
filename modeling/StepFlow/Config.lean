import StepFlow.Flow.Parse

/-! The settings that all runs of an engine share. -/
namespace StepFlow

open Schema

/-- Settings. A step without timeout of its own takes the default one; none leaves it without
limit. -/
structure Config where
  maxSteps : Int := 20
  stepTimeout : Option Binary64 := some (Binary64.ofDecimal false 120 0)
  defaultWorker : String := "default"
  emitThinking : Bool := true
  /-- The workers for actions, by flow. -/
  actionWorkers : List (String × List (ActionKind × String)) := []
deriving Repr, Inhabited

namespace Config

def fieldNames : List String :=
  ["max_steps", "step_timeout", "default_worker", "emit_thinking", "action_workers"]

def unknownFields (es : Entries) : List Issue :=
  es.filterMap fun (k, _) => match k with
    | .text s => if s ∈ fieldNames then none else some ⟨[.name s], .notPermitted⟩
    | k => some ⟨[keyPlace k], .keyNotText⟩

def check (es : Entries) : Checked Config :=
  let known := Config.mk <$> field es ["max_steps"] 20 atLeastOne
    <*> field es ["step_timeout"] ({} : Config).stepTimeout (optional positive)
    <*> field es ["default_worker"] "default" nonEmptyText
    <*> field es ["emit_thinking"] true boolean
    <*> field es ["action_workers"] [] (table text (table action text))
  match unknownFields es with
  | [] => known
  | issues => (fun c _ => c) <$> known <*> (.bad issues : Checked Unit)

/-- Reads settings from a mapping; nothing at all means the defaults. -/
def parse (data : Value) : Except Fault Config := do
  (check (← data.toEntries)).orRefuse .configIssues

end Config
end StepFlow
