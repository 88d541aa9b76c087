import StepFlow.Engine.Stream
import StepFlow.Proofs.Run.Execution

/-!
# What runs keep

What holds of a world through each thing that a run does to it holds of it through the whole run:
through its events and the jobs of its steps, or even through all that a job does.
-/
namespace StepFlow

/-- The events of a run and the jobs of its steps keep this. The news of loaded flows are not a
run's to tell. -/
structure World.Sustained {σ : Type} (P : World σ → Prop) : Prop where
  emit : ∀ w e, e.kind ≠ .flowsLoaded → P w → P (w.emit e).2
  enter : ∀ w, P w → P w.openEmitter
  leave : ∀ w, P w → P w.closeEmitter
  carry : ∀ (x : Executor σ) s f c worker handler prompt w, P w →
    P (x.carryOut s f c worker handler prompt w).2

namespace World.Sustained
variable {σ : Type} {P : World σ → Prop} {w w' : World σ}

theorem of_emit (hP : Sustained P) (hw : P w) {e : Event} {r : Except Fault Unit}
    (h : w.emit e = (r, w')) (he : e.kind ≠ .flowsLoaded) : P w' := by
  have hemit := hP.emit w e he hw
  rw [h] at hemit
  exact hemit

theorem outcome (hP : Sustained P) (x : Executor σ) (s : Step) (f : Flow) (c : Context) (hw : P w) :
    P (x.outcome s f c w).2 := by
  generalize hout : x.outcome s f c w = out
  cases Executor.outcome_cases hout with
  | unstaffed => exact hw
  | unprompted => exact hw
  | carried => exact hP.carry _ _ _ _ _ _ _ _ hw

theorem execute (hP : Sustained P) (x : Executor σ) (s : Step) (f : Flow) (c : Context) (hw : P w) :
    P (x.execute s f c w).2 := by
  unfold Executor.execute
  split
  · next hstart => exact hP.of_emit hw hstart nofun
  · next w₁ hstart =>
    have hdone := hP.outcome x s f c (hP.of_emit hw hstart nofun)
    split
    · next heq =>
      rw [heq] at hdone
      exact hdone
    · next heq =>
      rw [heq] at hdone
      split
      · exact hdone
      · split
        · split
          · next herror => exact hP.of_emit hdone herror nofun
          · next herror => exact hP.of_emit hdone herror nofun
        · exact hdone

theorem settleStep (hP : Sustained P) (f : Flow) (s : Step) (r : StepResult) (c : Context)
    (hw : P w) :
    P (Executor.settleStep f s r c w).2.2 := by
  unfold Executor.settleStep
  split
  · exact hw
  · split
    · next htold => exact hP.of_emit hw htold nofun
    · next htold =>
      have hafter := hP.of_emit hw htold nofun
      split
      · exact hafter
      · split <;> exact hafter

theorem advance (hP : Sustained P) (x : Executor σ) (f : Flow) (current : String) (c : Context)
    (hw : P w) :
    P (x.advance f current c w).2.2 := by
  unfold Executor.advance
  split
  · exact hw
  · split
    · exact hw
    · next s _ =>
      have hexecuted := hP.execute x (x.present w s) f c hw
      split
      · next heq =>
        rw [heq] at hexecuted
        exact hexecuted
      · next heq =>
        rw [heq] at hexecuted
        exact hP.settleStep f s _ c hexecuted

theorem walk (hP : Sustained P) (x : Executor σ) (f : Flow) (left : Nat) (current : String)
    (c : Context) (hw : P w) :
    P (x.walk f left current c w).2.2 := by
  induction left generalizing current c w with
  | zero =>
    have hadvanced := hP.advance x f current c hw
    unfold Executor.walk
    split <;> next heq =>
      rw [heq] at hadvanced
      exact hadvanced
  | succ left ih =>
    have hadvanced := hP.advance x f current c hw
    unfold Executor.walk
    split
    · next heq =>
      rw [heq] at hadvanced
      exact hadvanced
    · next heq =>
      rw [heq] at hadvanced
      exact hadvanced
    · next heq =>
      rw [heq] at hadvanced
      exact ih _ _ hadvanced

theorem depart (hP : Sustained P) (f : Flow) (c : Context) (hw : P w) :
    P (Executor.depart f c w).2.2 := by
  unfold Executor.depart
  split
  · exact hw
  · split
    · exact hw
    · split <;> next htold => exact hP.of_emit hw htold nofun

theorem close (hP : Sustained P) (result : Except Fault Unit) (c : Context) (hw : P w) :
    P (Executor.close result c w).2.2 := by
  unfold Executor.close
  split
  · unfold Executor.complete
    split
    · exact hw
    · split <;> next htold => exact hP.of_emit hw htold nofun
  · unfold Executor.abort
    split
    · exact hw
    · dsimp only
      split <;> next htold => exact hP.of_emit hw htold nofun

theorem run (hP : Sustained P) (x : Executor σ) (f : Flow) (c : Context) (hw : P w) :
    P (x.run f c w).2.2 := by
  have hdeparted := hP.depart f c (hP.enter w hw)
  unfold Executor.run Executor.drive
  apply hP.leave
  split
  · next heq =>
    rw [heq] at hdeparted
    exact hdeparted
  · next start c₁ w₁ heq =>
    rw [heq] at hdeparted
    exact hP.close _ _ (hP.walk x f _ start c₁ hdeparted)

end World.Sustained

/-- Whatever a run does to its world keeps this. The news of loaded flows are not a run's to
tell. -/
structure World.Stable {σ : Type} (P : World σ → Prop) : Prop where
  emit : ∀ w e, e.kind ≠ .flowsLoaded → P w → P (w.emit e).2
  settle : ∀ w, P w → P w.settle
  enter : ∀ w, P w → P w.openEmitter
  leave : ∀ w, P w → P w.closeEmitter
  turn : ∀ w memory calls token overdue, P w → P { w with memory, calls, token, overdue }

namespace World.Stable
variable {σ : Type} {P : World σ → Prop} {w w' : World σ}

theorem settleIf (hP : Stable P) (hw : P w) (p : Prop) [Decidable p] :
    P (if p then w.settle else w) := by
  split
  · exact hP.settle w hw
  · exact hw

theorem think (hP : Stable P) (around : Circumstances) (worker kind content : String)
    (confidence : Value) (hw : P w) :
    P (w.think around worker kind content confidence).2 := by
  unfold World.think
  split
  · exact hP.emit w _ nofun hw
  · exact hw

theorem heed (hP : Stable P) (r : Reply) (hw : P w) : P (w.heed r) := by
  unfold World.heed
  split
  · exact hP.turn w w.memory w.calls _ w.overdue hw
  · exact hw

theorem wait (hP : Stable P) (around : Circumstances) (aside : Bool) (r : Reply) (hw : P w) :
    P (w.wait around aside r) :=
  hP.turn _ _ _ _ _ (hP.settleIf hw (aside || r.late))

theorem call (hP : Stable P) (around : Circumstances) (worker : Worker σ) (answer : Answering σ)
    (invocation : Invocation) (hw : P w) : P (w.call around worker answer invocation).2 := by
  unfold World.call
  split
  · exact hw
  · apply hP.wait
    apply hP.heed
    exact hP.turn _ _ _ _ _ (hP.settleIf hw (worker.capability.manner = .prepared))

theorem ask (hP : Stable P) (around : Circumstances) (worker : Worker σ) (request : Request)
    (hw : P w) :
    P (w.ask around worker request).2 := by
  obtain ⟨fault, hask⟩ | ⟨answer, -, hask⟩ := ask_cases w around worker request
  · rw [hask]
    exact hw
  · rw [hask]
    exact hP.call around worker answer _ hw

theorem perform (hP : Stable P) (around : Circumstances) (worker : Worker σ) (job : Job)
    (hw : P w) :
    P (w.perform around worker job).2 :=
  perform_invariant (fun _ kind content confidence =>
    hP.think around worker.name kind content confidence)
    (fun _ request => hP.ask around worker request) job w hw

theorem enterScope (hP : Stable P) (hw : P w) : P w.enterScope.2 := by
  unfold World.enterScope
  split
  · exact hP.turn w w.memory w.calls _ _ hw
  · exact hP.turn w w.memory w.calls w.token _ hw

theorem leaveScope (hP : Stable P) (scope : Option Nat) (hw : P w) : P (w.leaveScope scope) := by
  unfold World.leaveScope
  split
  · exact hP.turn w w.memory w.calls _ w.overdue hw
  · exact hw

theorem sustained (hP : Stable P) : Sustained P where
  emit := hP.emit
  enter := hP.enter
  leave := hP.leave
  carry x s f c worker handler prompt w hw := by
    unfold Executor.carryOut
    exact hP.leaveScope _ (hP.perform _ _ _ (hP.enterScope hw))

theorem runOn (hP : Stable P) (e : Engine σ) (f : Flow) (token : Option Token) (c : Context)
    (hw : P w) :
    P (e.runOn f token c w).2.2 := by
  unfold Engine.runOn
  exact hP.turn _ _ _ _ _ (hP.sustained.run e.executor f c
    (hP.turn w w.memory w.calls token w.overdue hw))

end World.Stable
end StepFlow
