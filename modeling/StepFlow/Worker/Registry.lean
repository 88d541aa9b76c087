import StepFlow.Table
import StepFlow.Worker.Basic

/-! The workers that are in use, by name. -/
namespace StepFlow

abbrev WorkerRegistry (σ : Type) := List (String × Worker σ)

namespace WorkerRegistry
variable {σ : Type}

def names (r : WorkerRegistry σ) : List String := r.map Prod.fst

/-- Puts a worker in use under its name; one that is there gives way only on request. -/
def register (r : WorkerRegistry σ) (w : Worker σ) (update : Bool) :
    Except Fault (WorkerRegistry σ) :=
  if hasKey w.name r ∧ ¬update then .error (.workerExists w.name) else .ok (assign w.name w r)

def ofList (ws : List (Worker σ)) : Except Fault (WorkerRegistry σ) :=
  ws.foldlM (fun r w => register r w false) []

def get (r : WorkerRegistry σ) (name : String) : Except Fault (Worker σ) :=
  match r.lookup name with
  | some w => .ok w
  | none => .error (.workerNotFound name r.names)

def describe (r : WorkerRegistry σ) : String :=
  "WorkerRegistry(workers=" ++ Text.Quoted.list r.names ++ ")"

end WorkerRegistry
end StepFlow
