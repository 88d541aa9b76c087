import StepFlow.Run.Execute

/-!
# The outcome of a result

A result is told that its step succeeded, with an output, or that it failed, with an error, and this
as often as one likes. The first outcome stands: every later one is refused and changes nothing.
-/
namespace StepFlow

open Executor (StepOutcome)

/-- A failed result with the text and the kind of its error, in which nothing of a reply is kept. -/
structure StepResult.FailedWith (r : StepResult) (text : String) (kind : ErrorKind) : Prop where
  status : r.status = .failed
  error : r.error = some text
  errorKind : r.errorKind = some kind
  output : r.output = .null
  sources : r.sources = .null
  confidence : r.confidence = .null

/-- A successful result with an output, and with the sources and the confidence that it offers. -/
structure StepResult.SucceededWith (r : StepResult) (v : Value) : Prop where
  status : r.status = .success
  output : r.output = v
  offered : v.sourcesAndConfidence = .ok (r.sources, r.confidence)
  error : r.error = none
  errorKind : r.errorKind = none

namespace StepResult
variable {r : StepResult}

def after (r : StepResult) (outcomes : List StepOutcome) : StepResult :=
  outcomes.foldl (fun r o => (o.apply r).2) r

/-- The result at its end, as yet without anything of its outcome. -/
def ended (r : StepResult) (status : StepStatus) : StepResult :=
  { r with status, endTime := some r.startTime, duration := some (Binary64.zero false) }

theorem finish_of_running (h : r.status = .running) (status : StepStatus) :
    r.finish status = .ok (r.ended status) :=
  if_pos h

theorem finish_of_finished (h : r.status ≠ .running) (status : StepStatus) :
    r.finish status = .error (.resultFinished r.stepId r.status) := if_neg h

theorem succeed_of_running (h : r.status = .running) {output sources confidence : Value}
    (hoffered : output.sourcesAndConfidence = .ok (sources, confidence)) :
    r.succeed output = (.ok (), { r.ended .success with output, sources, confidence }) := by
  unfold succeed
  rw [finish_of_running h, hoffered]

theorem fail_of_running (h : r.status = .running) (text typeName : String) (kind : ErrorKind) :
    r.fail (.ok text) typeName kind = (.ok (), { r.ended .failed with
      error := some (if text = "" then typeName else text), errorKind := some kind }) := by
  unfold fail
  rw [finish_of_running h]
  simp

theorem apply_of_finished (h : r.status ≠ .running) (o : StepOutcome) :
    o.apply r = (.error (.resultFinished r.stepId r.status), r) := by
  cases o with
  | success output =>
    unfold StepOutcome.apply succeed
    rw [finish_of_finished h]
  | failure text typeName kind =>
    unfold StepOutcome.apply fail
    rw [finish_of_finished h]

theorem after_of_finished (h : r.status ≠ .running) (outcomes : List StepOutcome) :
    r.after outcomes = r := by
  induction outcomes with
  | nil => rfl
  | cons o rest ih =>
    rw [after, List.foldl_cons, apply_of_finished h]
    exact ih

/-- What an outcome leaves of a running result, be its payload in order or not. -/
structure EndOf (r r' : StepResult) : Prop where
  finished : r'.status ≠ .running
  endTime : r'.endTime = some r.startTime
  duration : r'.duration.isSome
  stepId : r'.stepId = r.stepId
  action : r'.action = r.action
  startTime : r'.startTime = r.startTime
  worker : r'.worker = r.worker

theorem endOf_apply (h : r.status = .running) (o : StepOutcome) : r.EndOf (o.apply r).2 := by
  cases o with
  | success output =>
    simp only [StepOutcome.apply, succeed, finish_of_running h]
    cases output.sourcesAndConfidence with
    | error fault => exact ⟨nofun, rfl, rfl, rfl, rfl, rfl, rfl⟩
    | ok offered => exact ⟨nofun, rfl, rfl, rfl, rfl, rfl, rfl⟩
  | failure text typeName kind =>
    simp only [StepOutcome.apply, fail, finish_of_running h]
    cases text with
    | error fault => exact ⟨nofun, rfl, rfl, rfl, rfl, rfl, rfl⟩
    | ok text => exact ⟨nofun, rfl, rfl, rfl, rfl, rfl, rfl⟩

theorem after_cons (h : r.status = .running) (first : StepOutcome) (rest : List StepOutcome) :
    r.after (first :: rest) = (first.apply r).2 :=
      after_of_finished (endOf_apply h first).finished rest

/-- A result finishes once. It is running, without times, just if it was told nothing. The first
outcome fixes it, and every later one is refused and changes no field. After a success it has the
output, with the sources and the confidence that this offers, and no error; after a failure it has
the text of the error or else the name of its type, the kind, and nothing of an output. -/
theorem finishes_once (stepId : String) (action : ActionKind) (startTime : Moment)
    (worker : Option String) (outcomes : List StepOutcome) :
    let begun : StepResult := { stepId, action, startTime, worker }
    let r := begun.after outcomes
    (r.status = .running ↔ outcomes = []) ∧ (r.endTime = none ↔ outcomes = []) ∧
    (r.duration = none ↔ outcomes = []) ∧
    (r.stepId = stepId ∧ r.action = action ∧ r.startTime = startTime ∧ r.worker = worker) ∧
    (∀ first rest, outcomes = first :: rest → r = (first.apply begun).2) ∧
    (outcomes ≠ [] → ∀ later : StepOutcome, later.apply r =
      (.error (.resultFinished stepId r.status), r)) ∧
    (Fault.resultFinished stepId r.status).typeName = "RuntimeError" ∧
    (∀ output offered rest, outcomes = .success output :: rest →
      output.sourcesAndConfidence = .ok offered →
      (begun.succeed output).1 = .ok () ∧ r.SucceededWith output) ∧
    ∀ text typeName kind rest, outcomes = .failure (.ok text) typeName kind :: rest →
      (begun.fail (.ok text) typeName kind).1 = .ok () ∧
      r.FailedWith (if text = "" then typeName else text) kind ∧
      (typeName ≠ "" → r.error ≠ some "") := by
  intro begun r
  have hbegun : begun.status = .running := rfl
  have hnone (h : outcomes = []) : r = begun := by
    subst h
    rfl
  have hfirst (first : StepOutcome) (rest : List StepOutcome) (h : outcomes = first :: rest) :
      r = (first.apply begun).2 := by
    subst h
    exact after_cons hbegun first rest
  have hend (h : outcomes ≠ []) : begun.EndOf r := by
    obtain ⟨first, rest, hcons⟩ := List.exists_cons_of_ne_nil h
    rw [hfirst first rest hcons]
    exact endOf_apply hbegun first
  have honly {p : Prop} (hbegun : begun = r → p) (hended : begun.EndOf r → ¬p) : p ↔
      outcomes = [] :=
    ⟨fun hp => Classical.byContradiction fun h => hended (hend h) hp,
      fun h => hbegun (hnone h).symm⟩
  refine ⟨?_, ?_, ?_, ?_, hfirst, ?_, rfl, ?_, ?_⟩
  · exact honly (fun h => h ▸ rfl) fun h => h.finished
  · exact honly (fun h => h ▸ rfl) fun h => by simp [h.endTime]
  · exact honly (fun h => h ▸ rfl) fun h => Option.isSome_iff_ne_none.1 h.duration
  · by_cases h : outcomes = []
    · rw [hnone h]
      exact ⟨rfl, rfl, rfl, rfl⟩
    · exact ⟨(hend h).stepId, (hend h).action, (hend h).startTime, (hend h).worker⟩
  · intro hne later
    rw [apply_of_finished (hend hne).finished, (hend hne).stepId]
  · rintro output ⟨sources, confidence⟩ rest hcons hoffered
    have happly := succeed_of_running hbegun hoffered
    have hr : r = (begun.succeed output).2 := hfirst _ rest hcons
    rw [hr, happly]
    exact ⟨rfl, rfl, rfl, hoffered, rfl, rfl⟩
  · rintro text typeName kind rest hcons
    have happly := fail_of_running hbegun text typeName kind
    have hr : r = (begun.fail (.ok text) typeName kind).2 := hfirst _ rest hcons
    rw [hr, happly]
    refine ⟨rfl, ⟨rfl, rfl, rfl, rfl, rfl, rfl⟩, fun htype => ?_⟩
    by_cases htext : text = "" <;> simp [htext, htype]

example : ((default : StepResult).after [.failure (.ok "") "KeyError" .capability,
  .success (.int 1)]).error =
    some "KeyError" := rfl

end StepResult
end StepFlow
