import StepFlow.Action.Builtin

/-!
# The bounds of a job

How many notes a job leaves at most, and how often and for what it asks the worker. A built-in
handler asks once at most, and leaves one note at most.
-/
namespace StepFlow

/-- The job asks the worker so many times at most, whatever comes back. -/
def Job.AsksAtMost : Job → Nat → Prop
  | .finish _, _ | .fail _, _ => True
  | .think _ _ _ rest, n => rest.AsksAtMost n
  | .ask _ next, n => 0 < n ∧ ∀ v, (next v).AsksAtMost (n - 1)

/-- The job leaves so many notes at most, and asks the worker so many times at most and only what
has a property, whatever comes back. -/
def Job.Within (P : Request → Prop) : Job → Nat → Nat → Prop
  | .finish _, _, _ | .fail _, _, _ => True
  | .think _ _ _ rest, notes, asks => 0 < notes ∧ rest.Within P (notes - 1) asks
  | .ask request next, notes, asks => P request ∧ 0 < asks ∧ ∀ v, (next v).Within P notes (asks - 1)

namespace Job.Within
variable {P : Request → Prop} {notes asks : Nat}

theorem asksAtMost {job : Job} (h : job.Within P notes asks) : job.AsksAtMost asks := by
  induction job generalizing notes asks with
  | finish output => trivial
  | fail fault => trivial
  | think kind content confidence rest ih => exact ih h.2
  | ask request next ih => exact ⟨h.2.1, fun v => ih v (h.2.2 v)⟩

theorem ofExcept_of_ok {α : Type} {x : Except Fault α} {next : α → Job}
    (h : ∀ a, x = .ok a → (next a).Within P notes asks) :
    (Job.ofExcept x next).Within P notes asks := by
  cases x with
  | ok a => exact h a rfl
  | error fault => trivial

theorem ofExcept {α : Type} {x : Except Fault α} {next : α → Job}
    (h : ∀ a, (next a).Within P notes asks) :
    (Job.ofExcept x next).Within P notes asks :=
  ofExcept_of_ok fun a _ => h a

theorem think {rest : Job} (h : rest.Within P notes asks) (kind content : String)
    (confidence : Value) :
    (Job.think kind content confidence rest).Within P (notes + 1) asks :=
  ⟨notes.succ_pos, h⟩

theorem ask {request : Request} (h : P request) (finish : Value → Value) :
    (Job.ask request fun reply => .finish (finish reply)).Within P notes (asks + 1) :=
  ⟨h, asks.succ_pos, fun _ => trivial⟩

end Job.Within

def Request.sources? : Request → Option (List Value)
  | synthesize sources .. => some sources
  | _ => none

/-- A request of the built-in handlers on a step's data: where it combines sources, these are the
gathered ones. -/
def Request.Combines (i : StepInput) (request : Request) : Prop :=
  ∀ sources ∈ request.sources?, sources = i.gatherSources

/-- How many notes the built-in handler for an action leaves at most. -/
def Handler.notes : ActionKind → Nat
  | .search | .analyze | .synthesize => 1
  | .compare | .recommend | .custom => 0

theorem Handler.within_builtin (a : ActionKind) (i : StepInput) (c : ActionContext) :
    ((builtin a).job i c).Within (Request.Combines i) (notes a) 1 := by
  have single {request : Request} (h : request.sources? = none) : request.Combines i := by
    simp [Request.Combines, h]
  cases a with
  | search =>
    apply Job.Within.ofExcept
    intro query
    apply Job.Within.think
    apply Job.Within.ofExcept
    intro maxResults
    exact .ask (single rfl) id
  | analyze =>
    apply Job.Within.ofExcept
    intro text
    apply Job.Within.think
    exact .ask (single rfl) id
  | synthesize =>
    apply Job.Within.think
    exact .ask (by simp [Request.Combines, Request.sources?]) id
  | compare =>
    apply Job.Within.ofExcept
    intro items
    exact .ask (single rfl) id
  | recommend =>
    apply Job.Within.ofExcept
    intro prompt
    apply Job.Within.ofExcept
    intro temperature
    exact .ask (single rfl) _
  | custom =>
    simp only [builtin, custom]
    split
    · trivial
    · apply Job.Within.ofExcept
      intro temperature
      exact .ask (single rfl) _

theorem Handler.asksAtMost_builtin (a : ActionKind) (i : StepInput) (c : ActionContext) :
    ((builtin a).job i c).AsksAtMost 1 :=
  (within_builtin a i c).asksAtMost

end StepFlow
