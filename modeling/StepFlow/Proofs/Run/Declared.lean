import StepFlow.Proofs.Flow.References
import StepFlow.Proofs.Prompt.Template
import StepFlow.Proofs.Run.Shape

/-!
# Declared steps

A run of a flow that was read never comes to a step that is not declared. The invariant of its
passes is that the current id is declared; no fault from anywhere else says that a step is missing.
-/
namespace StepFlow

theorem Capacity.kind?_of_check {capacity : Capacity} {fault : Fault}
    (h : capacity.check = .error fault) :
    fault.kind? = none := by
  cases capacity <;> cases h <;> rfl

theorem World.kind?_of_checkToken {σ : Type} {w : World σ} {fault : Fault}
    (h : w.checkToken = .error fault) :
    fault.kind? = some .cancelled := by
  rw [World.checkToken_eq] at h
  split at h <;> cases h
  rfl

theorem World.kind?_of_emit {σ : Type} {w w' : World σ} {e : Event} {fault : Fault}
    (h : w.emit e = (.error fault, w')) : fault.kind? = none := by
  obtain ⟨-, rfl | hcheck⟩ := World.emit_refused h
  · rfl
  · exact Capacity.kind?_of_check hcheck

namespace Executor
variable {σ : Type} {x : Executor σ} {f : Flow} {c c' : Context} {w w' : World σ} {s : Step}
  {fault : Fault} {current : String}

theorem kind?_of_outcome (h : x.outcome s f c w = (.error fault, w')) : fault.kind? = none := by
  cases outcome_cases h with
  | unprompted _ hprompt => exact Template.kind?_of_interpolate hprompt

theorem kind?_of_apply {o : StepOutcome} {r : StepResult} {now : Moment}
    (ho : x.outcome s f c w = (.ok o, w')) (hr : o.apply (x.begun s f now) = (.error fault, r)) :
    fault.kind? = none := by
  rcases StepOutcome.apply_begun_error hr with ⟨v, -, hv⟩ | ⟨typeName, kind, huntold⟩
  · obtain ⟨reason, -, rfl⟩ := Value.sourcesAndConfidence_eq_error.1 hv
    rfl
  · cases outcome_cases ho with
    | unstaffed => cases huntold
    | carried =>
      obtain ⟨failure, -, -, hspoken⟩ := StepOutcome.ofEnd_eq_untold huntold
      exact Fault.kind?_of_spoken hspoken

theorem kind?_of_execute (h : x.execute s f c w = (.error fault, w')) : fault.kind? = none := by
  unfold execute at h
  split at h
  · next hemit =>
    cases h
    exact World.kind?_of_emit hemit
  · split at h
    · next ho =>
      cases h
      exact kind?_of_outcome ho
    · next ho =>
      split at h
      · next hr =>
        cases h
        exact kind?_of_apply ho hr
      · split at h
        · split at h
          · next hemit =>
            cases h
            exact World.kind?_of_emit hemit
          · cases h
        · cases h

theorem kind?_of_settleStep {r : StepResult} (h : settleStep f s r c w = (.stop fault, c', w')) :
    fault.kind? ≠ some .stepNotFound := by
  unfold settleStep at h
  split at h
  · next hrecord =>
    cases h
    unfold Context.record at hrecord
    split at hrecord <;> cases hrecord
    simp [Fault.kind?]
  · split at h
    · next hemit =>
      cases h
      simp [World.kind?_of_emit hemit]
    · split at h
      · next hcheck =>
        cases h
        simp [World.kind?_of_checkToken hcheck]
      · split at h
        · next hnext =>
          cases h
          simp [kind?_of_nextStep hnext]
        · cases h
        · cases h

theorem kind?_of_advance (hcurrent : current ∈ f.stepIds)
    (h : x.advance f current c w = (.stop fault, c', w')) :
    fault.kind? ≠ some .stepNotFound := by
  unfold advance at h
  split at h
  · next hcheck =>
    cases h
    simp [World.kind?_of_checkToken hcheck]
  · split at h
    · next hmissing =>
      have hfound := Flow.isSome_step?.2 hcurrent
      rw [hmissing] at hfound
      cases hfound
    · split at h
      · next hexecute =>
        cases h
        simp [kind?_of_execute hexecute]
      · exact kind?_of_settleStep h

theorem declared_of_advance (hclosed : f.Closed) {id : String}
    (h : x.advance f current c w = (.next id, c', w')) :
    id ∈ f.stepIds := by
  obtain ⟨s, r, -, -, hs, -, hnext, -⟩ := visit_of_next h
  exact hclosed.next s (Flow.step?_eq_some hs).1 _ _ _ hnext

variable {left : Nat}

theorem declared_of_passesFrom (hclosed : f.Closed) (hcurrent : current ∈ f.stepIds) :
    ∀ p ∈ x.passesFrom f left current c w, p.current ∈ f.stepIds := by
  induction left generalizing current c w with
  | zero =>
    rw [passesFrom.eq_def]
    split
    · next hleft => cases hleft
    · exact List.forall_mem_cons.2 ⟨hcurrent, by simp⟩
  | succ left ih =>
    rw [passesFrom.eq_def]
    refine List.forall_mem_cons.2 ⟨hcurrent, ?_⟩
    split
    · next hadvance hleft =>
      cases hleft
      exact ih (declared_of_advance hclosed hadvance)
    · simp

theorem kind?_of_walk (hclosed : f.Closed) (hcurrent : current ∈ f.stepIds)
    (h : (x.walk f left current c w).1 = .error fault) : fault.kind? ≠ some .stepNotFound := by
  fun_induction walk x f left current c w with
  | case1 left current c w stopped c' w' hadvance =>
    cases h
    exact kind?_of_advance hcurrent hadvance
  | case2 => cases h
  | case3 =>
    cases h
    simp [Fault.kind?]
  | case4 current c w id c' w' hadvance left ih => exact ih (declared_of_advance hclosed hadvance) h

theorem kind?_of_depart (h : depart f c w = (.error fault, c', w')) : fault.kind? = none := by
  unfold depart at h
  split at h
  · next hstart =>
    cases h
    unfold Flow.start at hstart
    split at hstart <;> cases hstart
    rfl
  · split at h
    · next hstart =>
      cases h
      unfold Context.start at hstart
      split at hstart <;> cases hstart
      rfl
    · split at h
      · next hemit =>
        cases h
        exact World.kind?_of_emit hemit
      · cases h

theorem start_of_depart {start : String} (h : depart f c w = (.ok start, c', w')) :
    f.start = .ok start := by
  unfold depart at h
  split at h
  · cases h
  · next hstart =>
    split at h
    · cases h
    · split at h
      · cases h
      · cases h
        exact hstart

theorem kind?_of_finish {now : Moment} {state : RunState} {error : Option Value}
    (h : c.finish now state error = .error fault) : fault.kind? = none := by
  unfold Context.finish at h
  split at h
  · cases h
    rfl
  · split at h <;> cases h
    rfl

/-- A run that is ended meets only faults from outside the family, beside that which ends it. -/
theorem kind?_of_close {result : Except Fault Unit} (h : (close result c w).1 = .error fault) :
    result = .error fault ∨ fault.kind? = none := by
  unfold close at h
  split at h
  · unfold complete at h
    split at h
    · next hfinish =>
      cases h
      exact .inr (kind?_of_finish hfinish)
    · split at h
      · next hemit =>
        cases h
        exact .inr (World.kind?_of_emit hemit)
      · cases h
  · unfold abort at h
    split at h
    · next hsilent =>
      cases h
      exact .inr (Fault.kind?_of_spoken hsilent)
    · dsimp only at h
      split at h
      · next hemit =>
        cases h
        exact .inr (World.kind?_of_emit hemit)
      · cases h
        exact .inl rfl

/-- In no run of a flow that was read does a pass come to a step that is not declared, or a missing
step end the run. -/
theorem run_stays_declared {data knownAs : Value} (hparse : Flow.parse data knownAs = .ok f)
    (x : Executor σ) (c : Context) (w : World σ) :
    (∀ p ∈ x.passes f c w, ∃ s ∈ f.steps, s.id = p.current ∧ f.step? p.current = some s) ∧
      ∀ fault, (x.run f c w).1 = .error fault → fault.kind? ≠ some .stepNotFound := by
  have hclosed := Flow.closed_of_parse hparse
  obtain ⟨first, hfirst, hdeclared⟩ := hclosed.start
  constructor
  · intro p hp
    unfold passes at hp
    split at hp
    · next start c' w' hdepart =>
      cases hfirst.symm.trans (start_of_depart hdepart)
      obtain ⟨s, hs⟩ := Option.isSome_iff_exists.1
        (Flow.isSome_step?.2 (declared_of_passesFrom hclosed hdeclared p hp))
      exact ⟨s, (Flow.step?_eq_some hs).1, (Flow.step?_eq_some hs).2, hs⟩
    · cases hp
  · intro fault h
    unfold run drive at h
    dsimp only at h
    split at h
    · next hdepart =>
      cases h
      simp [kind?_of_depart hdepart]
    · next start c' w' hdepart =>
      cases hfirst.symm.trans (start_of_depart hdepart)
      rcases kind?_of_close h with hwalk | houtside
      · exact kind?_of_walk hclosed hdeclared hwalk
      · simp [houtside]

theorem round_stays_declared :
    let x := lone 3 { outcome := .ok (.text "found") }
    Flow.parse Flow.roundData .null = .ok Flow.round ∧
      (∀ p ∈ x.passes Flow.round (.new []) { memory := () },
        ∃ s ∈ Flow.round.steps, s.id = p.current ∧ Flow.round.step? p.current = some s) ∧
      ∀ fault, (x.run Flow.round (.new []) { memory := () }).1 = .error fault →
        fault.kind? ≠ some .stepNotFound :=
  ⟨Flow.parse_round, run_stays_declared Flow.parse_round _ _ _⟩

end Executor
end StepFlow
