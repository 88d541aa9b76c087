import StepFlow.Proofs.Run.Declared
import StepFlow.Proofs.Run.Inputs
import StepFlow.Proofs.Run.Path

/-!
# The record that a run leaves

A run ends in one of seven ways, and stops at a different point of its pass in each of them. The
record of it is whole in all of them, and tells from where the run would have gone on. Only a fault
that cannot tell its text leaves it open.
-/
namespace StepFlow

namespace Context
variable {c : Context} {path : List (Step × StepResult)}

theorem Books.mem_results (h : c.Books path) {id : String} {r : StepResult} :
    (id, r) ∈ c.results ↔
      ∃ earlier s later, path = earlier ++ (s, r) :: later ∧ s.id = id ∧
      ∀ e ∈ later, e.1.id ≠ id := by
  have hdistinct : (c.results.map Prod.fst).Nodup := h.keys ▸ nodup_eraseDups _
  rw [mem_iff_lookup hdistinct, ← latest?_eq_some, ← h.results]
  rfl

theorem Books.settled (h : c.Books path) : ∀ e ∈ c.results, e.2.status = .success ∨
    e.2.status = .failed := by
  rintro ⟨id, r⟩ he
  obtain ⟨earlier, s, later, hpath, -⟩ := h.mem_results.1 he
  have hmem : (s, r) ∈ path := hpath ▸ List.mem_append_right _ List.mem_cons_self
  exact (h.ofSteps _ hmem).status

/-- The record says that its run has ended with a result. -/
structure Ended (c : Context) (result : Except Fault Unit) : Prop where
  terminal : c.state.isTerminal = true
  endTime : c.endTime.isSome = true
  completed : result = .ok () ↔ c.state = .completed
  unharmed : c.error = none ↔ c.state = .completed
  error : ∀ fault, result = .error fault →
    c.error = some (.record fault.report) ∧ c.state = Executor.stateAfter fault

theorem ended_closed (c : Context) (now : Moment) {result : Except Fault Unit}
    (htold : Executor.Tellable result) :
    (c.closed now result).Ended result := by
  cases result with
  | ok _ => exact ⟨rfl, rfl, by simp [closed], by simp [closed], by simp⟩
  | error fault =>
    obtain ⟨text, hspoken⟩ := htold.spoken
    have hterminal := Executor.isTerminal_stateAfter fault
    have hstate : Executor.stateAfter fault ≠ .completed := by
      unfold Executor.stateAfter
      split <;> simp
    rw [c.closed_of_spoken now hspoken]
    refine ⟨hterminal, rfl, by simp [hstate], by simp [hstate], ?_⟩
    rintro _ ⟨⟩
    exact ⟨rfl, rfl⟩

theorem currentStep_closed (c : Context) (now : Moment) (result : Except Fault Unit) :
    (c.closed now result).currentStep = c.currentStep := by
  obtain ⟨state, error, endTime, h⟩ := c.closed_cases now result
  rw [h]

theorem currentIndex_closed (c : Context) (now : Moment) (result : Except Fault Unit) :
    (c.closed now result).currentIndex = c.currentIndex := by
  obtain ⟨state, error, endTime, h⟩ := c.closed_cases now result
  rw [h]

end Context

namespace Executor
variable {σ : Type} {x : Executor σ} {f : Flow} {c : Context} {w : World σ}

/-- The step at which the record of a run stands when the run has ended, and the number of steps
from which it has moved on. By then the run has made these visits. -/
inductive Stands (x : Executor σ) (f : Flow) (start : String) (vs : List (Visit σ)) :
    Except Fault Unit → Option String → Nat → Prop
  | completed : Stands x f start vs (.ok ()) none (vs.filterMap Visit.executed?).length
  /-- The step that would have been next. -/
  | limited {s : Step} {r : StepResult} {id : String} :
    (vs.filterMap Visit.executed?).getLast? = some (s, r) →
    nextStep s r.status r.output f = .ok (some id) →
      Stands x f start vs (.error (.stepLimit f.id x.config.maxSteps id)) (some id)
        (vs.filterMap Visit.executed?).length
  | missing {id : String} : f.step? id = none →
    Stands x f start vs (.error (.stepNotFound f.id id)) (some id)
      (vs.filterMap Visit.executed?).length
  /-- The start step, which is not executed any more. -/
  | cancelledFirst {reason : Option String} : vs.filterMap Visit.executed? = [] →
    Stands x f start vs (.error (.cancelled reason)) (some start) 0
  /-- The step that was just executed, from which the record has not moved on. -/
  | cancelledAfter {s : Step} {r : StepResult} {reason : Option String} :
    (vs.filterMap Visit.executed?).getLast? = some (s, r) →
      Stands x f start vs (.error (.cancelled reason)) (some s.id)
        ((vs.filterMap Visit.executed?).length - 1)
  /-- The step that was just executed, after which it cannot be told where to go on. -/
  | undecided {s : Step} {r : StepResult} {fault : Fault} :
    (vs.filterMap Visit.executed?).getLast? = some (s, r) →
    nextStep s r.status r.output f = .error fault →
      Stands x f start vs (toldAs (.error fault)) (some s.id)
        ((vs.filterMap Visit.executed?).length - 1)
  /-- The step whose execution came to no result. -/
  | aborted {v : Visit σ} {fault : Fault} : vs.getLast? = some v → v.outcome = .error fault →
    fault.kind? = none →
    Stands x f start vs (toldAs (.error fault)) (some v.step.id)
      (vs.filterMap Visit.executed?).length

/-- A context from which a pass starts. It has moved on from every step that was executed, and where
the token is cancelled there is none. -/
structure Poised (start current : String) (c : Context) (w : World σ) (earlier : List (Visit σ)) :
    Prop where
  currentStep : c.currentStep = some current
  currentIndex : c.currentIndex = (earlier.filterMap Visit.executed?).length
  came : earlier.filterMap Visit.executed? = [] ∧ current = start ∨ w.cancellation = none

variable {start current : String} {left : Nat} {earlier vs : List (Visit σ)}
  {out : Except Fault Unit × Context × World σ}

theorem Stands.of_eq {result : Except Fault Unit} {step step' : Option String} {index index' : Nat}
    (h : x.Stands f start vs result step index) (hstep : step = step') (hindex : index = index') :
    x.Stands f start vs result step' index' := by
  rw [← hstep, ← hindex]
  exact h

theorem Kept.counted {v : Visit σ} {r : StepResult} {w' : World σ} (h : x.Kept f current v r w')
    (hpoised : Poised start current v.context v.before earlier) :
    ((earlier ++ [v]).filterMap Visit.executed?).getLast? = some (v.step, r) ∧
      ((earlier ++ [v]).filterMap Visit.executed?).length = v.context.currentIndex + 1 ∧
      v.context.currentStep = some v.step.id := by
  rw [List.filterMap_append, List.filterMap_cons_some (Visit.executed?_of_ok h.outcome),
    hpoised.currentIndex, hpoised.currentStep, (Flow.step?_eq_some h.found).2]
  exact ⟨List.getLast?_concat, List.length_append, rfl⟩

theorem stands_aborted {v : Visit σ} {fault : Fault} (hfault : v.outcome = .error fault)
    (hkind : fault.kind? = none) (hfound : f.step? current = some v.step)
    (hpoised : Poised start current c w earlier) :
    x.Stands f start (earlier ++ [v]) (toldAs (.error fault)) c.currentStep c.currentIndex := by
  have hlast : (earlier ++ [v]).getLast? = some v := List.getLast?_concat
  have hexecuted : (earlier ++ [v]).filterMap Visit.executed? =
      earlier.filterMap Visit.executed? := by
    rw [List.filterMap_append, List.filterMap_cons_none (Visit.executed?_of_error hfault),
      List.filterMap_nil, List.append_nil]
  rw [hpoised.currentStep, hpoised.currentIndex, ← (Flow.step?_eq_some hfound).2, ← hexecuted]
  exact .aborted hlast hfault hkind

/-- A course leaves the context standing where its last pass has stopped. -/
theorem Course.stands (h : x.Course f left current c w vs out)
    (hpoised : Poised start current c w earlier) :
    x.Stands f start (earlier ++ vs) (toldAs out.1) out.2.1.currentStep out.2.1.currentIndex := by
  -- By the passes. The visits before a pass are `earlier`, and its context is poised for it.
  induction h generalizing earlier with
  | stopped hturn =>
    cases hturn with
    | cancelled hcancelled =>
      dsimp only [Option.toList]
      rcases hpoised.came with ⟨hnone, rfl⟩ | huncancelled
      · rw [List.append_nil, hpoised.currentStep, hpoised.currentIndex, hnone]
        exact .cancelledFirst hnone
      · cases hcancelled.symm.trans huncancelled
    | missing _ hmissing =>
      dsimp only [Option.toList]
      rw [List.append_nil, hpoised.currentStep, hpoised.currentIndex]
      exact .missing hmissing
    | raised _ hfound hexecute =>
      exact stands_aborted rfl (kind?_of_execute hexecute) hfound hpoised
    | cutOff hkept _ =>
      obtain ⟨hlast, hlength, hstep⟩ := hkept.counted hpoised
      exact (Stands.cancelledAfter hlast).of_eq hstep.symm (Nat.sub_eq_of_eq_add hlength)
    | undecided hkept _ hnext =>
      obtain ⟨hlast, hlength, hstep⟩ := hkept.counted hpoised
      exact (Stands.undecided hlast hnext).of_eq hstep.symm (Nat.sub_eq_of_eq_add hlength)
  | completed hturn =>
    cases hturn with
    | ended hkept _ _ =>
      obtain ⟨-, hlength, -⟩ := hkept.counted hpoised
      exact Stands.completed.of_eq rfl hlength
  | limited hturn =>
    cases hturn with
    | went hkept _ hnext =>
      obtain ⟨hlast, hlength, -⟩ := hkept.counted hpoised
      exact (Stands.limited hlast hnext).of_eq rfl hlength
  | continued hturn _ ih =>
    cases hturn with
    | went hkept huncancelled hnext =>
      obtain ⟨-, hlength, -⟩ := hkept.counted hpoised
      have hmoved := ih {
        currentStep := rfl
        currentIndex := hlength.symm
        came := .inr (hkept.announced.cancellation_of_no_calls.trans huncancelled) }
      rw [List.append_assoc] at hmoved
      exact hmoved

/-- What the record of a run says when the run has ended with a result. -/
structure LeavesRecord (x : Executor σ) (f : Flow) (start : String) (vs : List (Visit σ))
    (result : Except Fault Unit) (c : Context) : Prop where
  history : c.history = (vs.filterMap Visit.executed?).map fun e => e.1.id
  /-- Every step is listed at its first visit. -/
  keys : c.results.map Prod.fst = c.history.eraseDups
  /-- The results are those of the latest executions. -/
  results : ∀ id r, (id, r) ∈ c.results ↔ ∃ earlier s later,
    vs.filterMap Visit.executed? = earlier ++ (s, r) :: later ∧ s.id = id ∧ ∀ e ∈ later, e.1.id ≠ id
  settled : ∀ e ∈ c.results, e.2.status = .success ∨ e.2.status = .failed
  lastResult : c.lastResult? = (vs.filterMap Visit.executed?).getLast?.map Prod.snd
  ended : c.Ended result ∨ c.Unclosed ∧ ∃ v fault own, vs.getLast? = some v ∧
    v.Raises f fault ∧ fault.spoken = .error own ∧ result = .error own
  stands : x.Stands f start vs result c.currentStep c.currentIndex

/-- However a run ends, it leaves a record that is whole, and closed unless the last visit raises
what cannot tell its text. -/
theorem run_leaves_record (hsteps : f.steps ≠ []) (hfresh : c.Fresh) (hw : w.TakesEvents) :
    ∃ start, f.start = .ok start ∧ x.LeavesRecord f start (x.visits f c w)
      (x.run f c w).1 (x.run f c w).2.1 := by
  obtain ⟨start, hstart⟩ := Flow.start_of_steps hsteps
  obtain ⟨c₁, w₁, out, w₂, hran⟩ := ran (x := x) hstart hfresh hw
  have hbooks := books_run (x := x) (f := f) (w := w) hfresh
  have hpoised : Poised start start c₁ w₁ ([] : List (Visit σ)) := by
    rw [hran.context]
    exact ⟨rfl, hfresh.currentIndex, .inl ⟨rfl, rfl⟩⟩
  have hstands := hran.course.stands hpoised
  have hended : (x.run f c w).2.1.Ended (x.run f c w).1 ∨ (x.run f c w).2.1.Unclosed ∧
      ∃ v fault own,
      (x.visits f c w).getLast? = some v ∧ v.Raises f fault ∧ fault.spoken = .error own ∧
        (x.run f c w).1 = .error own := by
    rcases tellable_or_silent out.1 with htold | ⟨fault, own, hfault, hsilent⟩
    · rw [hran.run, htold.toldAs]
      exact .inl (out.2.1.ended_closed out.2.2.now htold)
    · obtain ⟨v, hlast, hraised⟩ := hran.course.silent hfault hsilent
      refine .inr ⟨hran.unclosed hfault hsilent, v, fault, own, hlast, hraised, hsilent, ?_⟩
      rw [hran.result, hfault, toldAs_of_silent hsilent]
  rw [hran.run] at hbooks hended ⊢
  refine ⟨start, hstart, ?_⟩
  exact {
    history := hbooks.history
    keys := hbooks.keys
    results := fun id r => hbooks.mem_results
    settled := hbooks.settled
    lastResult := hbooks.lastResult?
    ended := hended
    stands := hstands.of_eq (out.2.1.currentStep_closed ..).symm
      (out.2.1.currentIndex_closed ..).symm }

/-- A run whose worker cancels it with its first reply has not moved on from its first step. -/
theorem round_leaves_record :
    let x := lone 5 { cancel := some (some "enough"), outcome := .ok (.text "found") }
    let (result, c, _) := x.run Flow.round (.new []) { memory := (), token := some {} }
    x.LeavesRecord Flow.round "a" (x.visits Flow.round (.new []) { memory := (), token := some {} })
      result c ∧
      c.state = .cancelled ∧ c.history = ["a"] ∧ c.currentStep = some "a" ∧ c.currentIndex = 0 := by
  intro x
  obtain ⟨start, hstart, hrecord⟩ := run_leaves_record (x := x) (f := Flow.round) (c := .new [])
    (w := { memory := (), token := some {} }) (by decide) (Context.fresh_new []) rfl
  cases hstart
  have hends : let c := (x.run Flow.round (.new []) { memory := (), token := some {} }).2.1
      c.state = .cancelled ∧ c.history = ["a"] ∧ c.currentStep = some "a" ∧ c.currentIndex = 0 := by
    decide +kernel
  generalize x.run Flow.round (.new []) { memory := (), token := some {} } = out at hrecord hends ⊢
  exact ⟨hrecord, hends⟩

/-- Not every run leaves such a record. One whose start cannot be told is not even closed, nor is
one that ends with what cannot tell its text; and one that cannot tell how it goes on does not move
on from its last step. -/
theorem not_every_run_leaves_record :
    (¬∀ (x : Executor Unit) (f : Flow) (c : Context) (w : World Unit), f.steps ≠ [] → c.Fresh →
      (x.run f c w).2.1.Ended (x.run f c w).1) ∧
    (¬∀ (x : Executor Unit) (f : Flow) (c : Context) (w : World Unit), f.steps ≠ [] → c.Fresh →
      w.TakesEvents → (x.run f c w).2.1.Ended (x.run f c w).1) ∧
    ¬∀ (x : Executor Unit) (f : Flow) (c : Context) (w : World Unit), f.steps ≠ [] → c.Fresh →
      w.TakesEvents → (x.run f c w).2.2.cancellation = none →
        (x.run f c w).2.1.currentIndex = (x.run f c w).2.1.history.length := by
  refine ⟨fun h => ?_, fun h => ?_, fun h => ?_⟩
  · let x := lone 3 { outcome := .ok (.text "found") }
    have hended := h x seeking (.new [])
      { memory := (), exchange := { bus := refusing .flowStart } } (by decide)
      (Context.fresh_new [])
    have hstart : seeking.start = .ok "a" := rfl
    rw [run_refused hstart (Context.fresh_new []) (admit_refusing .flowStart)] at hended
    cases hended.endTime
  · let x := lone 3 { outcome := .error (.textless "ValueError" "boom" (some "TypeError")) }
    have hended := h x seeking (.new []) { memory := () } (by decide) (Context.fresh_new []) rfl
    have hunfinished : (x.run seeking (.new []) { memory := () }).2.1.endTime = none := by
      decide +kernel
    simpa [hunfinished] using hended.endTime
  · let x := lone 3 { outcome := .ok (.record [("results", .uncounted "boom")]) }
    have hindex := h x seeking (.new []) { memory := () } (by decide)
      (Context.fresh_new []) rfl (by decide +kernel)
    have hstands : ((x.run seeking (.new []) { memory := () }).2.1.currentIndex,
        (x.run seeking (.new []) { memory := () }).2.1.history.length) = (0, 1) := by decide +kernel
    obtain ⟨hzero, hone⟩ := Prod.mk.inj hstands
    cases hzero.symm.trans (hindex.trans hone)

end Executor
end StepFlow
