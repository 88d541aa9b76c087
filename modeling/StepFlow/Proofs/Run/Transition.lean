import StepFlow.Proofs.Run.Path

/-!
# The transitions of a run

Of a step that was executed the result is a success, or a failure without output. So the three
conditions exclude each other: that of no results is left to successes for which no target is given.
It stalls the run where the results cannot be counted. As a target the name of the end is no step,
even where one is declared under it.
-/
namespace StepFlow

/-- The target that conditions choose by the result of an execution. -/
inductive Conditions.Chooses (cond : Conditions) (r : StepResult) : String → Prop
  | onSuccess {t : String} : r.status = .success → cond.onSuccess = some t → t ≠ "" →
    Chooses cond r t
  | onFailure {t : String} : r.status = .failed → cond.onFailure = some t → t ≠ "" →
    Chooses cond r t
  | onNoResults {t : String} : r.status = .success → cond.onSuccess = none ∨
    cond.onSuccess = some "" →
    r.output.ShowsNoResults → cond.onNoResults = some t → t ≠ "" → Chooses cond r t

/-- The target for no results is without effect after a failure, and where one for successes is
given. -/
theorem Conditions.chooses_of_dead {cond : Conditions} {r : StepResult} {t : String}
    (hdead : r.status = .failed ∨ ∃ u, cond.onSuccess = some u ∧ u ≠ "") (o : Option String) :
    ({ cond with onNoResults := o } : Conditions).Chooses r t ↔ cond.Chooses r t := by
  have hno (hs : r.status = .success) (hnone : cond.onSuccess = none ∨
    cond.onSuccess = some "") : False := by
    rcases hdead with hfailed | ⟨u, hu, hne⟩
    · cases hs.symm.trans hfailed
    · rcases hnone with hnone | hempty
      · cases hnone.symm.trans hu
      · exact absurd (Option.some.inj (hu.symm.trans hempty)) hne
  constructor
  · intro h
    cases h with
    | onSuccess hs ht hne => exact .onSuccess hs ht hne
    | onFailure hs ht hne => exact .onFailure hs ht hne
    | onNoResults hs hnone => exact (hno hs hnone).elim
  · intro h
    cases h with
    | onSuccess hs ht hne => exact .onSuccess hs ht hne
    | onFailure hs ht hne => exact .onFailure hs ht hne
    | onNoResults hs hnone => exact (hno hs hnone).elim

/-- No target can be told for the result of an execution: its results decide, and they cannot be
counted. -/
structure Conditions.Stalls (cond : Conditions) (r : StepResult) (fault : Fault) : Prop where
  status : r.status = .success
  passed : cond.onSuccess = none ∨ cond.onSuccess = some ""
  third : ∃ t, cond.onNoResults = some t ∧ t ≠ ""
  hides : r.output.HidesResults fault

theorem Conditions.not_stalls_of_dead {cond : Conditions} {r : StepResult}
    (hdead : r.status = .failed ∨ ∃ u, cond.onSuccess = some u ∧ u ≠ "") (fault : Fault) :
    ¬cond.Stalls r fault := by
  intro h
  rcases hdead with hfailed | ⟨u, hu, hne⟩
  · cases h.status.symm.trans hfailed
  · rcases h.passed with hnone | hempty
    · cases hnone.symm.trans hu
    · exact hne (Option.some.inj (hu.symm.trans hempty))

/-- By a result to which a step can come, conditions match what they choose. -/
theorem StepResult.IsOf.matches_iff {r : StepResult} {s : Step} {cond : Conditions} {t : String}
    (h : r.IsOf s) :
    cond.Matches r.status r.output t ↔ cond.Chooses r t := by
  constructor
  · intro hmatches
    cases hmatches with
    | success hs ht hne => exact .onSuccess hs ht hne
    | failure hs ht hne => exact .onFailure hs ht hne
    | noResults hsuccess hfailure hshows ht hne =>
      rcases h.status with hs | hs
      · have hnone : cond.onSuccess = none ∨ cond.onSuccess = some "" := by
          cases hu : cond.onSuccess with
          | none => exact .inl rfl
          | some u => exact .inr (congrArg some (hsuccess hs u hu))
        exact .onNoResults hs hnone hshows ht hne
      · obtain ⟨_, hexposes, -⟩ := hshows
        rw [h.output_of_failed hs] at hexposes
        cases hexposes
  · intro hchooses
    cases hchooses with
    | onSuccess hs ht hne => exact .success hs ht hne
    | onFailure hs ht hne => exact .failure hs ht hne
    | onNoResults hs hnone hshows ht hne =>
      refine .noResults ?_ ?_ hshows ht hne
      · intro _ u hu
        rcases hnone with hnone | hempty
        · cases hnone.symm.trans hu
        · cases hempty.symm.trans hu
          rfl
      · intro hfailed
        cases hs.symm.trans hfailed

theorem StepResult.IsOf.undecided_iff {r : StepResult} {s : Step} {cond : Conditions}
    {fault : Fault} (h : r.IsOf s) :
    cond.Undecided r.status r.output fault ↔ cond.Stalls r fault := by
  constructor
  · rintro ⟨hsuccess, -, hthird, hhides⟩
    rcases h.status with hs | hs
    · refine ⟨hs, ?_, hthird, hhides⟩
      cases hu : cond.onSuccess with
      | none => exact .inl rfl
      | some u => exact .inr (congrArg some (hsuccess hs u hu))
    · obtain ⟨_, _, hexposes, -⟩ := hhides
      rw [h.output_of_failed hs] at hexposes
      cases hexposes
  · rintro ⟨hs, hpassed, hthird, hhides⟩
    refine ⟨fun _ u hu => ?_, fun hfailed => ?_, hthird, hhides⟩
    · rcases hpassed with hnone | hempty
      · cases hnone.symm.trans hu
      · exact Option.some.inj (hu.symm.trans hempty)
    · cases hs.symm.trans hfailed

def Flow.broadenData : Value := .record [
  ("id", .text "broaden"),
  ("steps", .list [
    .record [("id", .text "find"), ("action", .text "synthesize"),
      ("conditions", .record [("on_failure", .text "end"), ("on_no_results", .text "widen")])],
    .record [("id", .text "report"), ("action", .text "synthesize")],
    .record [("id", .text "widen"), ("action", .text "synthesize"),
      ("conditions", .record [("on_success", .text "report")])]])]

def Flow.broaden : Flow where
  id := "broaden"
  steps := [
    { id := "find", action := .synthesize,
      conditions := some { onFailure := some "end", onNoResults := some "widen" } },
    { id := "report", action := .synthesize },
    { id := "widen", action := .synthesize, conditions := some { onSuccess := some "report" } }]

theorem Flow.parse_broaden : Flow.parse broadenData .null = .ok broaden := rfl

/-- The data of a flow that declares a step under the name of the end. -/
def Flow.terminalData : Value := .record [
  ("id", .text "terminal"),
  ("steps", .list [
    .record [("id", .text "a"), ("action", .text "search"),
      ("conditions", .record [("on_success", .text "end")])],
    .record [("id", .text "end"), ("action", .text "search")]])]

def Flow.terminal : Flow where
  id := "terminal"
  steps := [
    { id := "a", action := .search, conditions := some { onSuccess := some "end" } },
    { id := "end", action := .search }]

theorem Flow.parse_terminal : Flow.parse terminalData .null = .ok terminal := rfl

namespace Executor
variable {σ : Type} {x : Executor σ} {f : Flow} {c : Context} {w : World σ} {k : Nat}
  {v v' : Visit σ} {r : StepResult}

theorem next_of_result (hv : (x.visits f c w)[k]? = some v) (hr : v.outcome = .ok r)
    (hv' : (x.visits f c w)[k + 1]? = some v') :
    nextStep v.step r.status r.output f = .ok (some v'.step.id) := by
  obtain ⟨r', hr', hnext⟩ := next_of_visits hv hv'
  cases hr.symm.trans hr'
  exact hnext

/-- A run that comes to its end has stopped where the transition rule names no other step. -/
theorem next_of_last (hv : (x.visits f c w)[k]? = some v) (hr : v.outcome = .ok r)
    (hlast : (x.visits f c w)[k + 1]? = none) (hresult : (x.run f c w).1 = .ok ()) :
    nextStep v.step r.status r.output f = .ok none := by
  obtain ⟨before, v₀, r₀, hvisits, hr₀, hnext⟩ := last_of_run hresult
  have hlt : k < (x.visits f c w).length := (List.getElem?_eq_some_iff.1 hv).1
  have hle : (x.visits f c w).length ≤ k + 1 := List.getElem?_eq_none_iff.1 hlast
  have hk : k = before.length := by
    rw [hvisits, List.length_append, List.length_singleton] at hlt hle
    omega
  have hsame : v₀ = v := by simpa [hvisits, hk] using hv
  cases hsame
  cases hr.symm.trans hr₀
  exact hnext

/-- Where a run goes from an executed step. Without conditions it goes to the step declared next,
whatever the result. With conditions it goes to the target that they choose, unless this is the end,
and nowhere else, and it stops where they stall; after a failure, and where a target for successes
is given, that for no results has no effect. -/
theorem run_obeys_transitions (hv : (x.visits f c w)[k]? = some v) (hr : v.outcome = .ok r) :
    let next := nextStep v.step r.status r.output f
    (r.status = .success ∨ r.status = .failed) ∧
    (v.step.conditions = none → ∃ i, f.steps[i]? = some v.step ∧
      (∀ j s, i < j → f.steps[j]? = some s → s.id ≠ v.step.id) ∧
        ∀ status output, nextStep v.step status output f = .ok ((f.steps[i + 1]?).map Step.id)) ∧
    (∀ cond, v.step.conditions = some cond →
      (∀ t, next = .ok (some t) ↔ cond.Chooses r t ∧ t ≠ endTarget) ∧
      (next = .ok none ↔ (∀ t, cond.Chooses r t → t = endTarget) ∧ ∀ fault, ¬cond.Stalls r fault) ∧
      (∀ fault, next = .error fault ↔ cond.Stalls r fault) ∧
      ((r.status = .failed ∨ ∃ t, cond.onSuccess = some t ∧ t ≠ "") → ∀ o,
        nextStep { v.step with conditions := some { cond with onNoResults := o } }
          r.status r.output f = next)) ∧
    (∀ v', (x.visits f c w)[k + 1]? = some v' → next = .ok (some v'.step.id)) ∧
    ((x.visits f c w)[k + 1]? = none → (x.run f c w).1 = .ok () → next = .ok none) := by
  intro next
  obtain ⟨hof, hfound⟩ := isOf_of_visit (List.mem_of_getElem? hv) hr
  refine ⟨hof.status, ?_, ?_, fun v' hv' => next_of_result hv hr hv', next_of_last hv hr⟩
  · intro hc
    obtain ⟨i, -, hi, -, hlater, hafter⟩ := Flow.located_of_step? hfound
    refine ⟨i, hi, hlater, fun status output => ?_⟩
    rw [nextStep_of_none hc, hafter]
  · intro cond hc
    have hsome {s : Step} {cond : Conditions} (hc : s.conditions = some cond) (t : String) :
        nextStep s r.status r.output f = .ok (some t) ↔ cond.Chooses r t ∧ t ≠ endTarget := by
      rw [← hof.matches_iff]
      exact nextStep_eq_some_iff hc
    have hnone {s : Step} {cond : Conditions} (hc : s.conditions = some cond) :
        nextStep s r.status r.output f = .ok none ↔
          (∀ t, cond.Chooses r t → t = endTarget) ∧ ∀ fault, ¬cond.Stalls r fault := by
      simp only [← hof.matches_iff, ← hof.undecided_iff]
      exact nextStep_eq_none_iff hc
    have herror (fault : Fault) : next = .error fault ↔ cond.Stalls r fault := by
      rw [← hof.undecided_iff]
      exact nextStep_eq_error_iff hc
    refine ⟨hsome hc, hnone hc, herror, fun hdead o => ?_⟩
    have hchooses (t : String) := Conditions.chooses_of_dead (t := t) hdead o
    cases hnext : next with
    | error fault =>
      exact absurd ((herror fault).1 hnext) (Conditions.not_stalls_of_dead hdead fault)
    | ok target =>
      cases target with
      | some t => exact (hsome rfl t).2 ((and_congr_left' (hchooses t)).2 ((hsome hc t).1 hnext))
      | none =>
        have hstalls : ∀ fault, ¬({ cond with onNoResults := o } : Conditions).Stalls r fault := by
          apply Conditions.not_stalls_of_dead
          exact hdead
        exact (hnone rfl).2 ⟨fun t ht => ((hnone hc).1 hnext).1 t ((hchooses t).1 ht), hstalls⟩

/-- A search without results is broadened. -/
theorem broaden_obeys_transitions :
    let x := lone 5 { outcome := .ok (.record [("results", .list [])]) }
    ∃ v r v', (x.visits Flow.broaden (.new []) { memory := () })[0]? = some v ∧ v.outcome = .ok r ∧
      (x.visits Flow.broaden (.new []) { memory := () })[1]? = some v' ∧ v'.step.id = "widen" ∧
      nextStep v.step r.status r.output Flow.broaden = .ok (some "widen") := by
  intro x
  have hlength : 1 < (x.visits Flow.broaden (.new []) { memory := () }).length := by decide +kernel
  have hv := List.getElem?_eq_getElem (Nat.lt_of_succ_lt hlength)
  have hv' := List.getElem?_eq_getElem hlength
  have hid : ((x.visits Flow.broaden (.new []) { memory := () })[1]?).map (fun v => v.step.id) =
      some "widen" := by
    decide +kernel
  rw [hv', Option.map_some] at hid
  have hreturned : Returned (x.visits Flow.broaden (.new []) { memory := () }) := by decide +kernel
  obtain ⟨r, hr⟩ := hreturned _ (List.getElem_mem (Nat.lt_of_succ_lt hlength))
  obtain ⟨-, -, -, hnext, -⟩ := run_obeys_transitions hv hr
  exact ⟨_, r, _, hv, hr, hv', Option.some.inj hid, (hnext _ hv').trans (congrArg Except.ok hid)⟩

/-- In a flow that is accepted, a target that matches is the id of a declared step, to which the run
goes on, unless it is the name of the end. That ends the run, even where a step is declared under
it. -/
theorem accepted_reaches_targets {data knownAs : Value} (hparse : Flow.parse data knownAs = .ok f)
    {s : Step} (hs : s ∈ f.steps) {cond : Conditions} (hc : s.conditions = some cond)
    {status : StepStatus} {output : Value} {t : String} (ht : cond.Matches status output t) :
    (t ≠ endTarget → nextStep s status output f = .ok (some t) ∧ ∃ s', f.step? t = some s' ∧
      s'.id = t) ∧
    (t = endTarget → nextStep s status output f = .ok none) ∧
    ∀ {σ : Type} (x : Executor σ) (c : Context) (w : World σ) (k : Nat)
      (v : Visit σ) (r : StepResult), (x.visits f c w)[k]? = some v → v.step = s →
        v.outcome = .ok r → r.status = status → r.output = output →
        (∀ v', (x.visits f c w)[k + 1]? = some v' → t ≠ endTarget ∧ v'.step.id = t) ∧
          ((x.visits f c w)[k + 1]? = none → (x.run f c w).1 = .ok () → t = endTarget) := by
  have htarget (hend : t ≠ endTarget) : nextStep s status output f = .ok (some t) :=
    (nextStep_eq_some_iff hc).2 ⟨ht, hend⟩
  have hstop (hend : t = endTarget) : nextStep s status output f = .ok none := by
    refine (nextStep_eq_none_iff hc).2 ⟨fun u hu => ht.unique hu ▸ hend, fun fault hundecided => ?_⟩
    cases (Conditions.target?_eq_some_iff.2 ht).symm.trans
      (Conditions.target?_eq_error_iff.2 hundecided)
  refine ⟨fun hend => ⟨htarget hend, ?_⟩, hstop, ?_⟩
  · have hdeclared : t ∈ f.stepIds :=
      (Flow.closed_of_parse hparse).next s hs status output t (htarget hend)
    obtain ⟨s', hs'⟩ := Option.isSome_iff_exists.1 (Flow.isSome_step?.2 hdeclared)
    exact ⟨s', hs', (Flow.step?_eq_some hs').2⟩
  · rintro σ x c w k v r hv rfl hr rfl rfl
    constructor
    · intro v' hv'
      have hnext := next_of_result hv hr hv'
      obtain ⟨hmatches, hend⟩ := (nextStep_eq_some_iff hc).1 hnext
      have hid := hmatches.unique ht
      exact ⟨hid ▸ hend, hid⟩
    · intro hlast hresult
      refine Decidable.byContradiction fun hend => ?_
      cases (htarget hend).symm.trans (next_of_last hv hr hlast hresult)

theorem broaden_reaches_targets :
    nextStep Flow.broaden.steps[0] .success (.record [("results", .list [])]) Flow.broaden =
      .ok (some "widen") ∧ ∃ s, Flow.broaden.step? "widen" = some s := by
  have hmatches : Conditions.Matches { onFailure := some "end", onNoResults := some "widen" }
      .success (.record [("results", .list [])]) "widen" := Conditions.target?_eq_some_iff.1 rfl
  obtain ⟨hreached, -, -⟩ :=
    accepted_reaches_targets Flow.parse_broaden (List.getElem_mem (n := 0) (by decide)) rfl hmatches
  obtain ⟨hnext, s, hs, -⟩ := hreached (by decide)
  exact ⟨hnext, s, hs⟩

/-- A step that is declared under the name of the end is not reached as a target. -/
theorem not_every_target_is_reached :
    ¬∀ (data knownAs : Value) (f : Flow) (s : Step) (cond : Conditions)
      (status : StepStatus) (output : Value) (t : String), Flow.parse data knownAs = .ok f →
        s ∈ f.steps → s.conditions = some cond →
        cond.Matches status output t → t ∈ f.stepIds →
        nextStep s status output f = .ok (some t) := by
  intro h
  have hmatches : Conditions.Matches { onSuccess := some "end" } .success .null "end" :=
    .success rfl rfl (by decide)
  have hreached := h Flow.terminalData .null Flow.terminal Flow.terminal.steps[0]
    _ _ _ _ Flow.parse_terminal (List.getElem_mem _) rfl hmatches (by decide)
  cases hreached

end Executor
end StepFlow
