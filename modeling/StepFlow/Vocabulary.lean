import StepFlow.Value.Access

/-! Members of the closed vocabularies out of raw values. -/
namespace StepFlow

/-- The member that a value names; any other value is refused under the name of the vocabulary. -/
def memberOf {α : Type} (vocabulary : String) (ofName? : String → Option α) (v : Value) :
    Except Fault α :=
  match v with
  | .text s => match ofName? s with
    | some a => .ok a
    | none => .error (.notMember (Text.Quoted.ofString s) vocabulary)
  | v => do throw (.notMember (← v.literalText) vocabulary)

def ActionKind.ofValue : Value → Except Fault ActionKind := memberOf "ActionKind" ActionKind.ofName?

def RunState.ofValue : Value → Except Fault RunState := memberOf "RunState" RunState.ofName?

def ErrorKind.ofValue : Value → Except Fault ErrorKind := memberOf "ErrorKind" ErrorKind.ofName?

def EventKind.ofValue : Value → Except Fault EventKind := memberOf "EventKind" EventKind.ofName?

def OutputFormat.member : Value → Except Fault OutputFormat :=
  memberOf "OutputFormat" OutputFormat.ofName?

end StepFlow
