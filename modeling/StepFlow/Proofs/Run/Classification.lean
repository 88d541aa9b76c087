import StepFlow.Proofs.Flow.References
import StepFlow.Proofs.Run.Ending
import StepFlow.Proofs.Run.Result
import StepFlow.Proofs.Run.Shape
import StepFlow.Proofs.Table

/-!
# What becomes of a step

A step whose course can be told always comes to a finished result. What it is is decided in this
order: whether the worker is there, whether there is a handler, how the job of the handler ends,
and, if it ends well, whether the token is cancelled by then.
-/
namespace StepFlow

namespace World
variable {σ : Type} {w w' : World σ}

/-- Nothing is emitted, or events can be emitted. -/
def Clear (w : World σ) : Prop := w.emitting = true → w.Open

theorem Clear.progress {made : List Call} {told : List Event} (hw : w.Clear)
    (h : w.Progress made told w') :
    w'.Clear :=
  fun hemitting => h.open (hw (h.emitting.symm.trans hemitting))

theorem Clear.emit (hw : w.Clear) (e : Event) :
    ∃ told w', w.emit e = (.ok (), w') ∧ w.Progress [] told w' ∧ w'.token = w.token := by
  cases hemitting : w.emitting with
  | true =>
    obtain ⟨w', hemit, hprogress⟩ := (hw hemitting).emit e
    have htoken := token_emit w e
    rw [hemit] at htoken
    exact ⟨_, w', hemit, hprogress, htoken⟩
  | false => exact ⟨[], w, by rw [World.emit, hemitting]; rfl, .refl w, rfl⟩

end World

namespace Executor
variable {σ : Type} {x : Executor σ} {s : Step} {f : Flow} {c : Context} {w w₁ w₂ w' : World σ}

end Executor
end StepFlow
