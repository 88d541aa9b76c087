import StepFlow.Proofs.Run.Execution

/-!
# How a job ends

A job is interrupted only after a cancellation has reached its scope, and it is cut off by its
deadline only where it has one and a worker is late. In all other cases it comes to its own end, and
then every worker that was late held out. Whether the scope was reached is the same question as
whether the token is cancelled, and whether the deadline has passed is the same as whether there is
one and a worker was late.
-/
namespace StepFlow

/-- A token that reaches a scope only by a cancellation. -/
def Token.Sound (t : Token) : Prop := t.cancelled = false → t.reached = []

namespace Token
variable {t : Token}

theorem Sound.enter (h : t.Sound) : t.enter.2.Sound := by
  intro hc
  have hcancelled : t.cancelled = false := hc
  simp [Token.enter, hcancelled, h hcancelled]

theorem Sound.leave (h : t.Sound) (scope : Nat) : (t.leave scope).Sound := h

end Token

namespace World
variable {σ : Type} {c : Circumstances} {worker : Worker σ} {w w' : World σ} {scope : Option Nat}

/-- There is a deadline, and a worker was late. -/
def Passed (deadline : Bool) (made : List Call) : Bool :=
  deadline && made.any fun call => call.reply.late

def HeldOut (deadline : Bool) (made : List Call) : Prop :=
  deadline = true → ∀ call ∈ made, call.reply.late = true → call.reply.unyielding = true

/-- The ways in which a job may end that has made some calls, with a deadline or without, its scope
reached or not, and its deadline passed or not. -/
inductive Ends (deadline : Bool) (made : List Call) : (reached overdue : Bool) → Ending → Prop
  | interrupted {overdue : Bool} : Ends deadline made true overdue .interrupted
  | timedOut : Passed deadline made = true → Ends deadline made false true .timedOut
  | failed {reached : Bool} {fault : Fault} : HeldOut deadline made →
    Ends deadline made reached (Passed deadline made) (.failed fault)
  | returned {reached : Bool} {output : Value} : HeldOut deadline made →
    Ends deadline made reached (Passed deadline made) (.returned output)

variable {deadline : Bool} {before made more : List Call}

theorem HeldOut.append (h : HeldOut deadline made) (hmore : HeldOut deadline more) :
    HeldOut deadline (made ++ more) :=
  fun hdeadline => List.forall_mem_append.2 ⟨h hdeadline, hmore hdeadline⟩

end World

namespace Executor
variable {σ : Type} {x : Executor σ} {s : Step} {f : Flow} {c : Context} {w : World σ}

end Executor
end StepFlow
