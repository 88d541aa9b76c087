import StepFlow.Proofs.Prompt.Input
import StepFlow.Proofs.Run.Requests
import StepFlow.Proofs.Run.Shape

/-!
# The inputs of the steps of a run

A step works on the outputs of the latest executions, before its own, of the steps that it names. A
failed execution has no output, and hides that of an earlier one.
-/
namespace StepFlow

/-- A flow of two steps that call each other. The second combines what both have left. -/
def Flow.relay : Flow where
  id := "relay"
  steps := [
    { id := "a", action := .synthesize,
      conditions := some { onSuccess := some "b", onFailure := some "b" } },
    { id := "b", action := .synthesize,
      inputs := some { fromStep := some "a", fromContext := some ["a", "b", "a"] },
      conditions := some { onSuccess := some "a" } }]

namespace Executor
variable {σ : Type} {x : Executor σ} {f : Flow} {c : Context} {w : World σ}

/-- The results that a visit finds are those of the latest executions before it. -/
theorem result?_of_visit {left : Nat} {current : String} {before : List (Step × StepResult)}
    (hbefore : ∀ id, c.result? id = latest? before id) {k : Nat} {v : Visit σ}
    (hv : (x.visitsOf f (x.passesFrom f left current c w))[k]? = some v) :
    let path := (x.visitsOf f (x.passesFrom f left current c w)).filterMap Visit.executed?
    path[k]? = v.executed? ∧ ∀ id, v.context.result? id = latest? (before ++ path.take k) id := by
  -- By the passes that are left: `before` is the path up to the pass, whose results its context
  -- holds.
  induction left using Nat.strongRecOn generalizing current c w before k with
  | ind left ih =>
    rcases visitsOf_cases (x := x) (f := f) left current c w with
      hnone | ⟨last, hlast, hcontext, -⟩ | ⟨s, r, w₁, left', id, c', w',
        hleft, -, hid, -, hc', hvisits⟩
    · rw [hnone] at hv
      cases hv
    · rw [hlast] at hv ⊢
      cases k with
      | zero =>
        cases hv
        refine ⟨?_, by simpa [hcontext] using hbefore⟩
        cases hexecuted : v.executed? <;> simp [hexecuted]
      | succ k => cases hv
    · rw [hvisits] at hv ⊢
      have hexecuted : Visit.executed? ⟨s, c, w, .ok r, w₁⟩ = some (s, r) := rfl
      cases k with
      | zero =>
        cases hv
        exact ⟨by simp [hexecuted], by simpa using hbefore⟩
      | succ k =>
        have hkept : ∀ id, c'.result? id = latest? (before ++ [(s, r)]) id := by
          intro id
          rw [latest?_concat, ← hbefore, hc', ← hid]
          exact c.result?_keep r id
        obtain ⟨hposition, hresults⟩ := ih left' (by omega) hkept hv
        refine ⟨?_, fun id => ?_⟩
        · simpa [hexecuted] using hposition
        · rw [hresults id, List.filterMap_cons_some hexecuted, List.take_succ_cons,
            List.append_assoc, List.singleton_append]

theorem output_of_failed {e : Step × StepResult}
    (he : e ∈ (x.visits f c w).filterMap Visit.executed?) (hfailed : e.2.failed = true) :
    e.2.output = .null := by
  obtain ⟨v, hv, hexecuted⟩ := List.mem_filterMap.1 he
  obtain ⟨-, hr⟩ := Visit.executed?_eq_some_iff.1 hexecuted
  exact (isOf_of_visit hv hr).1.output_of_failed (beq_iff_eq.1 hfailed)

theorem result?_of_visits (hfresh : c.Fresh) {k : Nat} {v : Visit σ}
    (hv : (x.visits f c w)[k]? = some v) :
    let path := (x.visits f c w).filterMap Visit.executed?
    path[k]? = v.executed? ∧ v.context.result? = latest? (path.take k) := by
  unfold visits passes at hv ⊢
  split at hv
  · next start c' w' hdepart =>
    have hnone : ∀ id, c'.result? id = latest? [] id := by
      intro id
      unfold Context.result?
      rw [(depart_context hfresh hdepart).2.1]
      rfl
    obtain ⟨hposition, hresults⟩ := result?_of_visit hnone hv
    exact ⟨hposition, funext hresults⟩
  · cases hv

/-- The input of the step at a position of a run: the previous data is the output of the latest
execution of the step that is named for it, and the context data has the outputs of the latest
executions of the steps that are named for it and have run, in the order in which they are first
named. Where the handler combines sources, these are the previous data and then the outputs of the
context data, of which lists and tuples are spliced. -/
theorem inputs_are_latest (hfresh : c.Fresh) {k : Nat} {v : Visit σ}
    (hv : (x.visits f c w)[k]? = some v) :
    let path := (x.visits f c w).filterMap Visit.executed?
    let latest := latest? (path.take k)
    let previous :=
      (((v.step.inputs.bind fun i => given? i.fromStep).bind latest).map
        StepResult.output).getD .null
    let contextData := (v.step.inputs.bind StepInputs.fromContext).map fun ids =>
      ids.eraseDups.filterMap fun id => (latest id).map fun r => (Value.text id, r.output)
    (x.run f c w).2.1.history = path.map (fun e => e.1.id) ∧ path[k]? = v.executed? ∧
    (∀ id r, latest id = some r ↔ ∃ earlier s later,
      path.take k = earlier ++ (s, r) :: later ∧ s.id = id ∧ ∀ e ∈ later, e.1.id ≠ id) ∧
    (∀ e ∈ path, e.2.failed = true → e.2.output = .null) ∧
    (v.context.inputFor v.step).previous = previous ∧ (v.context.inputFor v.step).contextData =
      contextData ∧
    (x.actions.BuiltIn → ∀ call ∈ v.calls, ∀ sources ∈ call.invocation.request.sources?,
      sources = (if previous.isNull then [] else [previous]) ++
      (contextData.getD []).flatMap fun e => e.2.spliced) := by
  intro path latest previous contextData
  obtain ⟨hposition, hlatest⟩ := result?_of_visits hfresh hv
  have hprevious : (v.context.inputFor v.step).previous = previous := by
    unfold Context.inputFor
    rw [hlatest]
  have hcontextData : (v.context.inputFor v.step).contextData = contextData := by
    unfold Context.inputFor
    rw [hlatest]
    refine congrArg (Option.map · (v.step.inputs.bind StepInputs.fromContext))
      (funext fun ids => ?_)
    have hgiven (names : List String) : Entries.given (fun id =>
      (latest id).map StepResult.output) names =
        names.filterMap fun id => (latest id).map fun r => (Value.text id, r.output) := by
      simp only [Entries.given, Option.map_map]
      rfl
    rw [← hgiven, ← hgiven]
    exact Entries.ofList_given _ ids
  refine ⟨history_run hfresh, hposition, fun id r => latest?_eq_some, fun e he =>
    output_of_failed he, hprevious, hcontextData, ?_⟩
  intro hbuiltIn call hcall sources hsources
  obtain ⟨p, -, hvisit⟩ := mem_visits (List.mem_of_getElem? hv)
  have hcombines := requests_of_visit hvisit (bounded_of_builtIn hbuiltIn v.step v.context)
    call hcall sources hsources
  rw [hcombines, StepInput.gatherSources_eq, hprevious, hcontextData]

/-- An executor whose only worker numbers its replies, and fails on its third call. -/
def counting : Executor Nat where
  config := { maxSteps := 4 }
  workers := [("default", ⟨"default", "FunctionWorker", .function ActionKind.all .inline fun _ n =>
    ({ outcome := if n = 2 then .error (.foreign "ValueError"
      (some "third")) else .ok (.list [.int n]) }, n + 1)⟩)]

theorem lt_length_visits_relay :
    3 < (counting.visits Flow.relay (.new []) { memory := 0 }).length := by
  decide +kernel

/-- The second visit to `a` fails, and hides the output of the first. -/
theorem relay_inputs_are_latest :
    ∃ v, (counting.visits Flow.relay (.new []) { memory := 0 })[3]? = some v ∧ v.step.id = "b" ∧
      (v.context.inputFor v.step).previous.isNull = true ∧
      ((v.context.inputFor v.step).contextData.getD []).map (fun e =>
        e.2.spliced.map Value.asInt?) =
        [[none], [some 1]] ∧
      v.calls.length = 1 ∧ ∀ call ∈ v.calls, ∀ sources ∈ call.invocation.request.sources?,
        sources.map Value.asInt? = [none, some 1] := by
  have hv := List.getElem?_eq_getElem lt_length_visits_relay
  obtain ⟨-, -, -, -, hprevious, hcontextData, hsources⟩ :=
    inputs_are_latest (Context.fresh_new []) hv
  refine ⟨_, hv, by decide +kernel, ?_, ?_, by decide +kernel, ?_⟩
  · rw [hprevious]
    decide +kernel
  · rw [hcontextData]
    decide +kernel
  · intro call hcall sources hmem
    rw [hsources ActionRegistry.builtIn_default call hcall sources hmem]
    decide +kernel

end Executor
end StepFlow
