import StepFlow.Proofs.Run.Performance
import StepFlow.Run.Execute

/-!
# The execution of a step

An execution is announced, has its outcome, and is settled in a result. Which faults leave it is
said exactly: those of the prompt, of the text of a failure, and of an output that is asked for its
sources. All others are kept in the result.
-/
namespace StepFlow

/-- A failed result with its error, in which nothing of a reply is kept. -/
structure StepResult.Lost (r : StepResult) : Prop where
  status : r.status = .failed
  error : r.error.isSome
  errorKind : r.errorKind.isSome
  output : r.output = .null
  sources : r.sources = .null
  confidence : r.confidence = .null

theorem Fault.spoken_eq_error {f fault : Fault} :
    f.spoken = .error fault ↔ ∃ type reason, f = .textless type reason ∧
      fault = .text (.unprintable reason) ∨
      ∃ next, f = .textless type reason (some next) ∧ fault = .textless next reason := by
  constructor
  · intro h
    cases f with
    | textless type reason next =>
      cases next with
      | none => exact ⟨type, reason, .inl ⟨rfl, (Except.error.inj h).symm⟩⟩
      | some next => exact ⟨type, reason, .inr ⟨next, rfl, (Except.error.inj h).symm⟩⟩
    | _ => cases h
  · rintro ⟨type, reason, ⟨rfl, rfl⟩ | ⟨next, rfl, rfl⟩⟩
    · rfl
    · rfl

theorem Fault.kind?_of_spoken {f fault : Fault} (h : f.spoken = .error fault) :
    fault.kind? = none := by
  obtain ⟨type, reason, ⟨-, rfl⟩ | ⟨next, -, rfl⟩⟩ := Fault.spoken_eq_error.1 h
  · rfl
  · rfl

theorem Value.sourcesAndConfidence_eq_error {v : Value} {fault : Fault} :
    v.sourcesAndConfidence = .error fault ↔
      ∃ reason, v = .sealed reason ∧ fault = .foreign "RuntimeError" (some reason) := by
  constructor
  · intro h
    cases v <;> simp only [sourcesAndConfidence, Except.error.injEq, reduceCtorEq] at h
    exact ⟨_, rfl, h.symm⟩
  · rintro ⟨reason, rfl, rfl⟩
    rfl

theorem ActionRegistry.mem_of_get {r : ActionRegistry} {action : ActionKind} {handler : Handler}
    (h : r.get action = .ok handler) : (action, handler) ∈ r := by
  unfold get at h
  split at h
  · next hlookup =>
    cases h
    obtain ⟨before, after, rfl, -⟩ := List.lookup_eq_some_iff.1 hlookup
    exact List.mem_append_right _ List.mem_cons_self
  · cases h

namespace Executor
variable {σ : Type} {x : Executor σ} {s : Step} {f : Flow} {c : Context} {w w' : World σ}
  {o : Except Fault StepOutcome}

theorem StepOutcome.apply_begun_error {now : Moment} {o : StepOutcome} {r : StepResult}
    {fault : Fault} (h : o.apply (x.begun s f now) = (.error fault, r)) :
    (∃ v, o = .success v ∧ v.sourcesAndConfidence = .error fault) ∨
      ∃ typeName kind, o = .failure (.error fault) typeName kind := by
  cases o with
  | success v =>
    refine .inl ⟨v, rfl, ?_⟩
    simp only [apply, StepResult.succeed, StepResult.finish, begun, if_true] at h
    split at h
    · next hv =>
      cases h
      exact hv
    · cases h
  | failure text typeName kind =>
    simp only [apply, StepResult.fail, StepResult.finish, begun, if_true] at h
    split at h
    · cases h
      exact .inr ⟨typeName, kind, rfl⟩
    · cases h

theorem StepOutcome.apply_begun_ok {now : Moment} {o : StepOutcome} {r : StepResult}
    (h : o.apply (x.begun s f now) = (.ok (), r)) :
    r.stepId = s.id ∧ ((∃ v, o = .success v ∧ r.status = .success ∧ r.output = v) ∨ r.Lost) := by
  cases o with
  | success v =>
    simp only [apply, StepResult.succeed, StepResult.finish, begun, if_true] at h
    split at h
    · cases h
    · cases h
      exact ⟨rfl, .inl ⟨v, rfl, rfl, rfl⟩⟩
  | failure text typeName kind =>
    simp only [apply, StepResult.fail, StepResult.finish, begun, if_true] at h
    split at h
    · cases h
    · cases h
      exact ⟨rfl, .inr ⟨rfl, rfl, rfl, rfl, rfl, rfl⟩⟩

structure Staffed (x : Executor σ) (s : Step) (f : Flow) (worker : Worker σ) (handler : Handler) :
    Prop where
  worker : x.workers.get (x.selector.select s f) = .ok worker
  handler : x.actions.get s.action = .ok handler

theorem outcome_of_prompt_error {worker : Worker σ} {handler : Handler} {fault : Fault}
    (hstaffed : x.Staffed s f worker handler)
    (hprompt : Template.interpolate s.prompt (c.inputFor s).values = .error fault) :
    x.outcome s f c w = (.error fault, w) := by
  unfold outcome
  rw [hstaffed.worker, hstaffed.handler]
  dsimp only
  unfold runHandler
  rw [hprompt]

theorem outcome_of_prompt {worker : Worker σ} {handler : Handler} {prompt : String}
    (hstaffed : x.Staffed s f worker handler)
    (hprompt : Template.interpolate s.prompt (c.inputFor s).values = .ok prompt) :
    x.outcome s f c w =
      (.ok (.ofEnd s (x.timeoutFor s) (x.carryOut s f c worker handler prompt w).1),
        (x.carryOut s f c worker handler prompt w).2) := by
  unfold outcome
  rw [hstaffed.worker, hstaffed.handler]
  dsimp only
  unfold runHandler
  rw [hprompt]

/-- The ways to an outcome. Without worker or handler it is a failure that can be told. -/
inductive Outcome (x : Executor σ) (s : Step) (f : Flow) (c : Context) (w : World σ) :
    Except Fault StepOutcome × World σ → Prop
  | unstaffed (text typeName : String) (kind : ErrorKind) :
    (∀ worker handler, ¬x.Staffed s f worker handler) →
      Outcome x s f c w (.ok (.failure (.ok text) typeName kind), w)
  | unprompted {worker : Worker σ} {handler : Handler} {fault : Fault} :
    x.Staffed s f worker handler →
    Template.interpolate s.prompt (c.inputFor s).values = .error fault →
    Outcome x s f c w (.error fault, w)
  | carried {worker : Worker σ} {handler : Handler} {prompt : String} :
    x.Staffed s f worker handler →
    Template.interpolate s.prompt (c.inputFor s).values = .ok prompt →
      Outcome x s f c w
        (.ok (.ofEnd s (x.timeoutFor s) (x.carryOut s f c worker handler prompt w).1),
        (x.carryOut s f c worker handler prompt w).2)

theorem outcome_cases {o : Except Fault StepOutcome × World σ} (h : x.outcome s f c w = o) :
    x.Outcome s f c w o := by
  subst h
  cases hw : x.workers.get (x.selector.select s f) with
  | error fault =>
    have hunstaffed : ∀ worker handler, ¬x.Staffed s f worker handler := by
      intro worker handler hstaffed
      cases hw.symm.trans hstaffed.worker
    unfold outcome
    rw [hw]
    unfold WorkerRegistry.get at hw
    split at hw
    · cases hw
    · cases hw
      exact .unstaffed _ _ _ hunstaffed
  | ok worker =>
    cases hh : x.actions.get s.action with
    | error fault =>
      have hunstaffed : ∀ worker handler, ¬x.Staffed s f worker handler := by
        intro worker handler hstaffed
        cases hh.symm.trans hstaffed.handler
      unfold outcome
      rw [hw, hh]
      unfold ActionRegistry.get at hh
      split at hh
      · cases hh
      · cases hh
        exact .unstaffed _ _ _ hunstaffed
    | ok handler =>
      cases hp : Template.interpolate s.prompt (c.inputFor s).values with
      | error fault =>
        rw [outcome_of_prompt_error ⟨hw, hh⟩ hp]
        exact .unprompted ⟨hw, hh⟩ hp
      | ok prompt =>
        rw [outcome_of_prompt ⟨hw, hh⟩ hp]
        exact .carried ⟨hw, hh⟩ hp

theorem progress_carryOut (worker : Worker σ) (handler : Handler) (prompt : String) (w : World σ) :
    ∃ calls notes, w.Progress calls notes (x.carryOut s f c worker handler prompt w).2 ∧
      ∀ e ∈ notes, e.kind = .thinking ∧ e.stepId = some s.id := by
  have hentered := w.progress_enterScope
  unfold carryOut
  generalize w.enterScope = entered at hentered
  obtain ⟨scope, w₁⟩ := entered
  dsimp only at hentered ⊢
  generalize hc : Circumstances.mk _ _ _ _ _ _ = around
  obtain ⟨calls, notes, hperformed, hnotes⟩ :=
    World.progress_perform around worker (handler.job (c.inputFor s) ⟨s, prompt,
      (c.inputFor s).values⟩) w₁
  refine ⟨_, _, (hentered.trans hperformed).trans (World.progress_leaveScope _ scope), ?_⟩
  intro e he
  have hnote := hnotes e (by simpa using he)
  subst hc
  exact ⟨hnote.kind, hnote.stepId⟩

theorem reached_carryOut {worker : Worker σ} {handler : Handler} {prompt : String} {w : World σ}
    {reason : Option String}
    (h : (x.carryOut s f c worker handler prompt w).2.cancellation = some reason) :
    (x.carryOut s f c worker handler prompt w).1.reached = true := by
  have hguards := w.guards_enterScope
  unfold carryOut at h ⊢
  generalize w.enterScope = entered at hguards h ⊢
  obtain ⟨scope, w₁⟩ := entered
  dsimp only at hguards h ⊢
  apply World.Guards.isReached (World.guards_perform _ worker _ hguards)
  rw [(World.progress_leaveScope _ scope).cancellation_of_no_calls] at h
  exact h

theorem length_calls_carryOut {worker : Worker σ} {handler : Handler} {n : Nat}
    (hhandler : ∀ input context, (handler.job input context).AsksAtMost n) (prompt : String)
    (w : World σ) :
    (x.carryOut s f c worker handler prompt w).2.calls.length ≤ w.calls.length + n := by
  have hentered := w.progress_enterScope.calls
  unfold carryOut
  generalize w.enterScope = entered at hentered
  obtain ⟨scope, w₁⟩ := entered
  dsimp only at hentered ⊢
  rw [(World.progress_leaveScope _ scope).calls, List.append_nil]
  rw [List.append_nil] at hentered
  rw [← hentered]
  exact World.length_calls_perform (hhandler _ _) w₁

theorem progress_outcome (h : x.outcome s f c w = (o, w')) :
    ∃ calls notes, w.Progress calls notes w' ∧ ∀ e ∈ notes, e.kind = .thinking ∧
    e.stepId = some s.id := by
  cases outcome_cases h with
  | unstaffed => exact ⟨[], [], .refl w, by simp⟩
  | unprompted => exact ⟨[], [], .refl w, by simp⟩
  | carried => exact progress_carryOut _ _ _ w

theorem StepOutcome.ofEnd_eq_success {timeout : Option Binary64} {e : JobEnd} {v : Value}
    (h : ofEnd s timeout e = .success v) : e.ending = .returned v ∧ e.reached = false := by
  obtain ⟨ending, reached, overdue⟩ := e
  cases ending with
  | returned output =>
    cases reached with
    | false =>
      cases h
      exact ⟨rfl, rfl⟩
    | true => cases h
  | failed fault =>
    unfold ofEnd at h
    dsimp only at h
    split at h <;> cases h
  | interrupted => cases h
  | timedOut => cases h

theorem StepOutcome.ofEnd_eq_untold {timeout : Option Binary64} {e : JobEnd} {own : Fault}
    {typeName : String} {kind : ErrorKind}
    (h : ofEnd s timeout e = .failure (.error own) typeName kind) :
    ∃ fault, e.ending = .failed fault ∧ (e.overdue && fault.isTimeout) = false ∧
    fault.spoken = .error own := by
  obtain ⟨ending, reached, overdue⟩ := e
  cases ending with
  | returned output => cases reached <;> cases h
  | failed fault =>
    unfold ofEnd at h
    dsimp only at h
    split at h
    · cases h
    · next hother =>
      rw [ofFault, failure.injEq] at h
      exact ⟨fault, rfl, Bool.eq_false_iff.2 hother, h.1⟩
  | interrupted => cases h
  | timedOut => cases h

theorem outcome_of_cancelled {outcome : StepOutcome} {reason : Option String}
    (h : x.outcome s f c w = (.ok outcome, w')) (hc : w'.cancellation = some reason) :
    ∃ text typeName kind, outcome = .failure text typeName kind := by
  cases outcome_cases h with
  | unstaffed => exact ⟨_, _, _, rfl⟩
  | carried hstaffed hprompt =>
    cases ho : StepOutcome.ofEnd s (x.timeoutFor s) (x.carryOut s f c _ _ _ w).1 with
    | success v => cases (StepOutcome.ofEnd_eq_success ho).2.symm.trans (reached_carryOut hc)
    | failure text typeName kind => exact ⟨_, _, _, rfl⟩

theorem length_calls_outcome {n : Nat}
    (hactions : ∀ e ∈ x.actions, ∀ input context, (e.2.job input context).AsksAtMost n)
    (h : x.outcome s f c w = (o, w')) : w'.calls.length ≤ w.calls.length + n := by
  cases outcome_cases h with
  | unstaffed => exact Nat.le_add_right _ _
  | unprompted => exact Nat.le_add_right _ _
  | carried hstaffed =>
    exact length_calls_carryOut (hactions _ (ActionRegistry.mem_of_get hstaffed.handler)) _ w

/-- What an outcome comes to, in a world where events can be emitted. -/
inductive Settled (x : Executor σ) (s : Step) (f : Flow) (c : Context) (w : World σ) :
    Except Fault StepOutcome → Except Fault StepResult × World σ → Prop
  | raised {fault : Fault} : Settled x s f c w (.error fault) (.error fault, w)
  | unsettled {outcome : StepOutcome} {fault : Fault} {r : StepResult} :
    outcome.apply (x.begun s f w.now) = (.error fault, r) →
    Settled x s f c w (.ok outcome) (.error fault, w)
  | succeeded {outcome : StepOutcome} {r : StepResult} :
    outcome.apply (x.begun s f w.now) = (.ok (), r) →
    r.failed = false → Settled x s f c w (.ok outcome) (.ok r, w)
  | failed {outcome : StepOutcome} {r : StepResult} {w' : World σ} :
    outcome.apply (x.begun s f w.now) = (.ok (), r) → r.failed = true →
      w.Progress [] [errorEvent c s r w.now] w' → Settled x s f c w (.ok outcome) (.ok r, w')

theorem Settled.progress {result : Except Fault StepResult} (h : x.Settled s f c w o (result, w')) :
    ∃ told, w.Progress [] told w' ∧ ∀ e ∈ told, e.kind = .stepError ∧ e.stepId = some s.id := by
  cases h with
  | raised => exact ⟨[], .refl w, by simp⟩
  | unsettled => exact ⟨[], .refl w, by simp⟩
  | succeeded => exact ⟨[], .refl w, by simp⟩
  | failed _ _ htold => exact ⟨_, htold, by simp [errorEvent, stepEvent]⟩

/-- An execution is announced, comes to an outcome, and is settled. -/
theorem execution (hw : w.Open) {result : Except Fault StepResult × World σ}
    (h : x.execute s f c w = result) :
    ∃ w₁ o w₂, w.emit (startEvent c s w.now) = (.ok (), w₁) ∧ x.outcome s f c w₁ = (o, w₂) ∧
      x.Settled s f c w₂ o result := by
  subst h
  obtain ⟨w₁, hstart, hstarted⟩ := hw.emit (startEvent c s w.now)
  unfold execute
  rw [hstart]
  dsimp only
  cases ho : x.outcome s f c w₁ with
  | mk outcome w₂ =>
    refine ⟨w₁, outcome, w₂, rfl, ho, ?_⟩
    cases outcome with
    | error fault => exact .raised
    | ok outcome =>
      dsimp only
      cases hr : outcome.apply (x.begun s f w₂.now) with
      | mk applied r =>
        cases applied with
        | error fault => exact .unsettled hr
        | ok _ =>
          dsimp only
          cases hfailed : r.failed with
          | false => exact .succeeded hr hfailed
          | true =>
            obtain ⟨calls, notes, hprogress, -⟩ := progress_outcome ho
            have hopen := hprogress.open (hstarted.open hw)
            obtain ⟨w₃, herror, htold⟩ := hopen.emit (errorEvent c s r w₂.now)
            rw [if_pos rfl, herror]
            exact .failed hr hfailed htold

/-- An execution tells that it starts, what the job notes, and that the result is a failure. -/
theorem progress_execute (hw : w.Open) {result : Except Fault StepResult}
    (h : x.execute s f c w = (result, w')) :
    ∃ calls notes, w.Progress calls (startEvent c s w.now :: notes) w' ∧
      ∀ e ∈ notes, (e.kind = .thinking ∨ e.kind = .stepError) ∧ e.stepId = some s.id := by
  obtain ⟨w₁, o, w₂, hstart, ho, hsettled⟩ := execution hw h
  obtain ⟨calls, notes, hprogress, hnotes⟩ := progress_outcome ho
  obtain ⟨told, htold, herrors⟩ := hsettled.progress
  have hall := ((hw.progress_emit hstart).trans hprogress).trans htold
  rw [List.nil_append, List.append_nil, List.append_assoc, List.singleton_append] at hall
  refine ⟨calls, _, hall, ?_⟩
  intro e he
  rcases List.mem_append.1 he with he | he
  · exact ⟨.inl (hnotes e he).1, (hnotes e he).2⟩
  · exact ⟨.inr (herrors e he).1, (herrors e he).2⟩

/-- The result is that of the step, and a success or a loss. After a cancellation it is a loss. -/
theorem result_of_execute (hw : w.Open) {r : StepResult} (h : x.execute s f c w = (.ok r, w')) :
    r.stepId = s.id ∧ (r.status = .success ∨ r.Lost) ∧
      ∀ reason, w'.cancellation = some reason → r.Lost := by
  obtain ⟨w₁, o, w₂, -, ho, hsettled⟩ := execution hw h
  cases hsettled with
  | succeeded hr hfailed =>
    obtain ⟨hid, ⟨v, rfl, hsuccess, -⟩ | hlost⟩ := StepOutcome.apply_begun_ok hr
    · refine ⟨hid, .inl hsuccess, ?_⟩
      intro reason hc
      obtain ⟨text, typeName, kind, ho'⟩ := outcome_of_cancelled ho hc
      cases ho'
    · simp [StepResult.failed, hlost.status] at hfailed
  | failed hr hfailed htold =>
    obtain ⟨hid, ⟨v, rfl, hsuccess, -⟩ | hlost⟩ := StepOutcome.apply_begun_ok hr
    · simp [StepResult.failed, hsuccess] at hfailed
    · exact ⟨hid, .inr hlost, fun _ _ => hlost⟩

theorem length_calls_execute {n : Nat}
    (hactions : ∀ e ∈ x.actions, ∀ input context, (e.2.job input context).AsksAtMost n)
    (hw : w.Open) {result : Except Fault StepResult} (h : x.execute s f c w = (result, w')) :
    w'.calls.length ≤ w.calls.length + n := by
  obtain ⟨w₁, o, w₂, hstart, ho, hsettled⟩ := execution hw h
  obtain ⟨told, htold, -⟩ := hsettled.progress
  have hstarted := (hw.progress_emit hstart).calls
  rw [List.append_nil] at hstarted
  rw [htold.calls, List.append_nil, ← hstarted]
  exact length_calls_outcome hactions ho

inductive Escape (x : Executor σ) (s : Step) (f : Flow) (c : Context) (w : World σ) : Fault → Prop
  /-- The prompt cannot be made. -/
  | prompt {worker : Worker σ} {handler : Handler} {fault : Fault} : x.Staffed s f worker handler →
    Template.interpolate s.prompt (c.inputFor s).values = .error fault → Escape x s f c w fault
  /-- The job ends with a failure that cannot tell its text, and that does not count as that of the
  deadline. -/
  | untold {worker : Worker σ} {handler : Handler} {prompt : String} {fault own : Fault}
    {reached overdue : Bool} :
    x.Staffed s f worker handler → Template.interpolate s.prompt (c.inputFor s).values =
      .ok prompt → (x.carryOut s f c worker handler prompt (w.emit (startEvent c s w.now)).2).1 =
        ⟨.failed fault, reached, overdue⟩ → (overdue && fault.isTimeout) = false →
          fault.spoken = .error own → Escape x s f c w own
  /-- The job ends with an output that refuses to give its sources. -/
  | sealed {worker : Worker σ} {handler : Handler} {prompt reason : String} {overdue : Bool} :
    x.Staffed s f worker handler → Template.interpolate s.prompt (c.inputFor s).values =
      .ok prompt → (x.carryOut s f c worker handler prompt (w.emit (startEvent c s w.now)).2).1 =
        ⟨.returned (.sealed reason), false, overdue⟩ →
        Escape x s f c w (.foreign "RuntimeError" (some reason))

/-- A fault leaves an execution just where it escapes. -/
theorem execute_eq_error_iff (hw : w.Open) (fault : Fault) :
    (x.execute s f c w).1 = .error fault ↔ x.Escape s f c w fault := by
  constructor
  · intro h
    generalize hexecute : x.execute s f c w = executed at h
    obtain ⟨result, w'⟩ := executed
    cases h
    obtain ⟨w₁, o, w₂, hstart, ho, hsettled⟩ := execution hw hexecute
    have hw₁ : (w.emit (startEvent c s w.now)).2 = w₁ := by rw [hstart]
    cases hsettled with
    | raised =>
      cases outcome_cases ho with
      | unprompted hstaffed hprompt => exact .prompt hstaffed hprompt
    | unsettled hr =>
      cases outcome_cases ho with
      | unstaffed =>
        rcases StepOutcome.apply_begun_error hr with ⟨_, ho, _⟩ | ⟨_, _, ho⟩ <;> cases ho
      | carried hstaffed hprompt =>
        rw [← hw₁] at hr
        rcases StepOutcome.apply_begun_error hr with ⟨v, hsuccess, hv⟩ | ⟨typeName, kind, huntold⟩
        · obtain ⟨reason, rfl, rfl⟩ := Value.sourcesAndConfidence_eq_error.1 hv
          obtain ⟨hreturned, hreached⟩ := StepOutcome.ofEnd_eq_success hsuccess
          exact .sealed hstaffed hprompt (JobEnd.ext hreturned hreached rfl)
        · obtain ⟨failure, hfailed, hother, hspoken⟩ := StepOutcome.ofEnd_eq_untold huntold
          exact .untold hstaffed hprompt (JobEnd.ext hfailed rfl rfl) hother hspoken
  · intro h
    obtain ⟨w₁, hstart, -⟩ := hw.emit (startEvent c s w.now)
    cases h with
    | prompt hstaffed hprompt =>
      unfold execute
      rw [hstart]
      dsimp only
      rw [outcome_of_prompt_error hstaffed hprompt]
    | untold hstaffed hprompt hending hother hspoken =>
      rw [hstart] at hending
      unfold execute
      rw [hstart]
      dsimp only
      rw [outcome_of_prompt hstaffed hprompt, hending]
      simp only [StepOutcome.ofEnd, hother, StepOutcome.ofFault, hspoken]
      rfl
    | sealed hstaffed hprompt hending =>
      rw [hstart] at hending
      unfold execute
      rw [hstart]
      dsimp only
      rw [outcome_of_prompt hstaffed hprompt, hending]
      rfl

end Executor
end StepFlow
