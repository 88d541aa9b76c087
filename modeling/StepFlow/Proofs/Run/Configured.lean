import StepFlow.Proofs.Run.Performance
import StepFlow.Run.Execute

/-!
# A job under two configurations

What becomes of a job if the configuration of its step is another one. Until the worker is called
nothing looks at the configuration; the call passes it on.
-/
namespace StepFlow

namespace World
variable {σ : Type} {α : Type} {worker : Worker σ} {P : Request → Prop} {w : World σ}

/-- Two outcomes under two configurations: either both are the same and come without a call, or each
comes with one call, which passes on its own configuration and the same request. -/
inductive Alike (worker : Worker σ) (P : Request → Prop) (config other : List (String × Value))
    (w : World σ) (x : α × World σ) : α × World σ → Prop
  | uncalled (hcalls : x.2.calls = w.calls) : Alike worker P config other w x x
  | called (y : α × World σ) (request : Request) (reply reply' : Reply) (hrequest : P request)
      (hcalls : x.2.calls = w.calls ++ [⟨worker.name, ⟨request.action, request, config⟩, reply⟩])
      (hcalls' : y.2.calls = w.calls ++ [⟨worker.name, ⟨request.action, request, other⟩, reply'⟩]) :
      Alike worker P config other w x y

namespace Alike
variable {config other : List (String × Value)} {x y : α × World σ} {w₁ : World σ}

theorem map {β : Type} (h : Alike worker P config other w x y) {g : α × World σ → β × World σ}
    (hg : ∀ z, (g z).2.calls = z.2.calls) : Alike worker P config other w (g x) (g y) := by
  cases h with
  | uncalled hx => exact .uncalled ((hg x).trans hx)
  | called y request reply reply' hrequest hx hy =>
    exact .called (g y) request reply reply' hrequest ((hg x).trans hx) ((hg y).trans hy)

end Alike

end World

end StepFlow
