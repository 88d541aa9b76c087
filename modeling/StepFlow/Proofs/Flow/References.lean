import StepFlow.Flow.Parse
import StepFlow.Proofs.Flow.Transition

/-!
# Closed flows

The check of the references covers every id that a run can come to: the start step, the targets of
the conditions, and the steps declared next. So a flow that is read is closed under its transitions.
-/
namespace StepFlow

theorem Conditions.mem_targets {c : Conditions} {t : String}
    (h : some t ∈ [c.onSuccess, c.onFailure, c.onNoResults]) (hend : t ≠ endTarget) :
    t ∈ c.targets := by
  apply List.mem_filterMap.2
  refine ⟨some t, h, ?_⟩
  rw [if_neg (fun heq => hend (Option.some.inj heq))]

namespace Flow
variable {f : Flow}

structure Closed (f : Flow) : Prop where
  start : ∃ start, f.start = .ok start ∧ start ∈ f.stepIds
  next : ∀ s ∈ f.steps, ∀ status output id, nextStep s status output f = .ok (some id) →
    id ∈ f.stepIds

theorem declared_of_reference (h : f.danglingReferences = []) {r : StepReference}
    (hr : r ∈ f.references) :
    r.target ∈ f.stepIds := by
  have hno := List.filter_eq_nil_iff.1 h r hr
  simpa using hno

theorem condition_mem_references {s : Step} (hs : s ∈ f.steps) {c : Conditions}
    (hc : s.conditions = some c) {t : String} (ht : t ∈ c.targets) :
    StepReference.condition s.id t ∈ f.references := by
  unfold references
  apply List.mem_append_right
  apply List.mem_flatMap.2
  refine ⟨s, hs, List.mem_append_left _ ?_⟩
  rw [hc]
  exact List.mem_map_of_mem ht

theorem nextStep_declared (h : f.danglingReferences = []) {s : Step} (hs : s ∈ f.steps)
    {status : StepStatus} {output : Value} {id : String}
    (hnext : nextStep s status output f = .ok (some id)) : id ∈ f.stepIds := by
  cases hc : s.conditions with
  | none =>
    rw [nextStep_of_none hc] at hnext
    obtain ⟨s', hafter, rfl⟩ := Option.map_eq_some_iff.1 (Except.ok.inj hnext)
    obtain ⟨i, -, hi⟩ := Option.bind_eq_some_iff.1 hafter
    exact List.mem_map_of_mem (List.mem_of_getElem? hi)
  | some c =>
    obtain ⟨hmatches, hend⟩ := (nextStep_eq_some_iff hc).1 hnext
    exact declared_of_reference h (condition_mem_references hs hc
      (Conditions.mem_targets hmatches.mem hend))

theorem start_declared (hsteps : f.steps ≠ []) (h : f.danglingReferences = []) :
    ∃ start, f.start = .ok start ∧ start ∈ f.stepIds := by
  obtain ⟨start, hstart⟩ := start_of_steps hsteps
  refine ⟨start, hstart, ?_⟩
  unfold Flow.start at hstart
  cases hdefault : f.defaultStart with
  | some id =>
    rw [hdefault] at hstart
    cases hstart
    have hreference : StepReference.start start ∈ f.references := by
      unfold references
      rw [hdefault]
      exact List.mem_append_left _ List.mem_cons_self
    exact declared_of_reference h hreference
  | none =>
    rw [hdefault] at hstart
    cases hs : f.steps with
    | nil => exact absurd hs hsteps
    | cons s rest =>
      rw [hs] at hstart
      cases hstart
      rw [stepIds, hs]
      exact List.mem_map_of_mem List.mem_cons_self

theorem closed_of_checkReferences {g : Flow} (h : g.checkReferences = .ok f) : f.Closed := by
  unfold checkReferences at h
  split at h
  · cases h
  · next hsteps =>
    split at h
    · cases h
    · split at h
      · next hdangling =>
        cases h
        have hsteps : f.steps ≠ [] := fun hnil => hsteps (by rw [hnil]; rfl)
        have hdangling : f.danglingReferences = [] := List.isEmpty_iff.1 hdangling
        exact ⟨start_declared hsteps hdangling, fun s hs _ _ _ hnext =>
          nextStep_declared hdangling hs hnext⟩
      · cases h

theorem checkReferences_of_parse {data knownAs : Value} (h : Flow.parse data knownAs = .ok f) :
    ∃ g : Flow, g.checkReferences = .ok f := by
  unfold Flow.parse at h
  split at h
  · dsimp only at h
    split at h
    · exact ⟨_, h⟩
    · simp only [bind, Except.bind] at h
      split at h <;> cases h
  · simp only [bind, Except.bind] at h
    split at h <;> cases h

theorem closed_of_parse {data knownAs : Value} (h : Flow.parse data knownAs = .ok f) :
    f.Closed := by
  obtain ⟨g, hchecked⟩ := checkReferences_of_parse h
  exact closed_of_checkReferences hchecked

def roundData : Value := .record [
  ("id", .text "round"),
  ("steps", .list [
    .record [("id", .text "a"), ("action", .text "synthesize"),
      ("conditions", .record [("on_success", .text "b")])],
    .record [("id", .text "b"), ("action", .text "synthesize"),
      ("conditions", .record [("on_success", .text "a")])]])]

def round : Flow where
  id := "round"
  steps := [
    { id := "a", action := .synthesize, conditions := some { onSuccess := some "b" } },
    { id := "b", action := .synthesize, conditions := some { onSuccess := some "a" } }]

theorem parse_round : Flow.parse roundData .null = .ok round := rfl

end Flow
end StepFlow
