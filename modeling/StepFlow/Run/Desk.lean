import StepFlow.Run.Context

/-! A context together with results that are still being worked on. A result that is kept early
shows its later state. -/
namespace StepFlow

structure Desk where
  /-- The context, its results apart. -/
  context : Context
  /-- Every result that was ever begun. -/
  begun : List StepResult := []
  /-- The results that can be worked on, by name. -/
  named : List (String × Nat) := []
  /-- The results that the context keeps, by step. -/
  kept : List (String × Nat) := []
deriving Repr, Inhabited

namespace Desk

def view (d : Desk) : Context :=
  { d.context with results := d.kept.filterMap fun (id, n) => (d.begun[n]?).map (id, ·) }

def begin (d : Desk) (name : String) (r : StepResult) : Desk :=
  { d with begun := d.begun ++ [r], named := assign name d.begun.length d.named }

def result (d : Desk) (name : String) : Except Fault (Nat × StepResult) :=
  match d.named.lookup name with
  | none => .error (.unknownName name)
  | some n => match d.begun[n]? with
    | some r => .ok (n, r)
    | none => .error (.unknownName name)

def update (d : Desk) (name : String) (change : StepResult → Except Fault Unit × StepResult) :
    Except Fault Unit × Desk :=
  match d.result name with
  | .error fault => (.error fault, d)
  | .ok (n, r) =>
    let (outcome, r) := change r
    (outcome, { d with begun := d.begun.set n r })

def record (d : Desk) (name : String) : Except Fault Desk := do
  let (n, r) ← d.result name
  let c ← d.context.record r
  return { d with context := { c with results := [] }, kept := assign r.stepId n d.kept }

def start (d : Desk) (now : Moment) (step : String) : Except Fault Desk := do
  return { d with context := ← d.context.start now step }

def finish (d : Desk) (now : Moment) (state : RunState) (error : Option Value) :
    Except Fault Desk := do
  return { d with context := ← d.context.finish now state error }

end Desk
end StepFlow
