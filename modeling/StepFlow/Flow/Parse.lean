import StepFlow.Flow.Decode
import StepFlow.Flow.References
import StepFlow.Value.Access

/-! From raw data to a flow: the fields first, then the references between the steps. -/
namespace StepFlow

def Schema.Checked.orRefuse {α : Type} (c : Schema.Checked α) (refuse : List Schema.Issue → Fault) :
    Except Fault α :=
  match c with
  | .good a => .ok a
  | .bad issues => .error (refuse issues)

namespace Flow

/-- Reads a flow. A flow without id gets the one it is known by, null for none. -/
def parse (data knownAs : Value) : Except Fault Flow := do
  match data with
  | .mapping entries =>
    let es : Entries := if knownAs.isNull then entries else Entries.insertNew
      entries (.text "id") knownAs
    match Flow.check es with
    | .good f => f.checkReferences
    | .bad issues =>
      let id := (es.getText? "id").getD knownAs
      throw (.flowIssues id (← id.toText) issues)
  | v => throw (.flowNotMapping knownAs (← knownAs.toText) v.typeName)

def plainText? : Option Value → Option String
  | some (.text s) => some s
  | _ => none

def plainTable (v : Option Value) : List (String × String) :=
  match v with
  | some (.mapping es) => es.filterMap fun e => match e with
    | (.text k, .text w) => some (k, w)
    | _ => none
  | _ => []

/-- Puts a flow together from its fields as they are. Only the steps are checked, each by itself, so
that ids may repeat, references may dangle, and outputs may be presented by anything. -/
def assemble (data : Value) : Except Fault Flow := do
  let es : Entries := match data with
    | .mapping es => es
    | _ => []
  let steps ← match es.getText? "steps" with
    | some v => (← v.items).mapM fun s => (Step.check s).orRefuse .partIssues
    | none => .ok []
  return {
    id := (plainText? (es.getText? "id")).getD ""
    name := (plainText? (es.getText? "name")).getD ""
    description := plainText? (es.getText? "description")
    steps
    defaultStart := plainText? (es.getText? "default_start_step")
    workerPreferences := plainTable (es.getText? "worker_preferences")
    actionWorkers := (plainTable (es.getText? "action_workers")).filterMap fun (a, w) =>
      (ActionKind.ofName? a).map (·, w)
    output := ((es.getText? "output").map Presentation.given).getD (.checked {}) }

end Flow
end StepFlow
