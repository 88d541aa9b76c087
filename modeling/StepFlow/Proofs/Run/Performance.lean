import StepFlow.Proofs.Action.Job
import StepFlow.Proofs.Run.Progress

/-!
# Carrying out a job

A job adds notes and calls to the worker that carries it out, and nothing else. While it is carried
out its scope is in flight, so that a cancellation of the token reaches it.
-/
namespace StepFlow

/-- An event that is a note about a job. -/
structure Event.IsNote (c : Circumstances) (e : Event) : Prop where
  kind : e.kind = .thinking
  flowId : e.flowId = some c.flowId
  sessionId : e.sessionId = some c.sessionId
  stepId : e.stepId = some c.step.id

def Circumstances.note (c : Circumstances) (worker kind content : String) (confidence : Value)
    (now : Moment) :
    Event where
  kind := .thinking
  flowId := some c.flowId
  sessionId := some c.sessionId
  stepId := some c.step.id
  data := Event.named [("trace", .trace ⟨c.step.id, worker, kind, content, confidence, now⟩)]
  timestamp := now

theorem Circumstances.isNote_note (c : Circumstances) (worker kind content : String)
    (confidence : Value) (now : Moment) : (c.note worker kind content confidence now).IsNote c :=
      ⟨rfl, rfl, rfl, rfl⟩

namespace World
variable {σ : Type} {c : Circumstances} {worker : Worker σ}

/-- What holds of a world through notes and calls holds of it through a whole job. -/
theorem perform_invariant {P : World σ → Prop}
    (hthink : ∀ w kind content confidence, P w →
      P (w.think c worker.name kind content confidence).2)
    (hask : ∀ w request, P w → P (w.ask c worker request).2) (job : Job) (w : World σ) (hw : P w) :
    P (perform c worker job w).2 := by
  induction job generalizing w with
  | finish output => exact hw
  | fail fault => exact hw
  | think kind content confidence rest ih =>
    have h := hthink w kind content confidence hw
    unfold perform
    split
    · next heq =>
      rw [heq] at h
      exact ih _ h
    · next heq =>
      rw [heq] at h
      exact h
  | ask request next ih =>
    have h := hask w request hw
    unfold perform
    split
    · next v _ heq =>
      rw [heq] at h
      exact ih v _ h
    · next heq =>
      rw [heq] at h
      exact h

theorem think_eq (c : Circumstances) (worker : String) (w : World σ) (kind content : String)
    (confidence : Value) :
    w.think c worker kind content confidence =
      if c.emitThinking then w.emit (c.note worker kind content confidence w.now)
      else (.ok (), w) := rfl

theorem overdue_emit (w : World σ) (e : Event) : (w.emit e).2.overdue = w.overdue := by
  unfold emit
  split
  · split <;> rfl
  · rfl

theorem overdue_think (w : World σ) (c : Circumstances) (worker kind content : String)
    (confidence : Value) :
    (w.think c worker kind content confidence).2.overdue = w.overdue := by
  rw [think_eq]
  split
  · exact overdue_emit w _
  · rfl

theorem progress_think (c : Circumstances) (worker : Worker σ) (w : World σ) (kind content : String)
    (confidence : Value) :
    ∃ notes, w.Progress [] notes (w.think c worker.name kind content confidence).2 ∧
    ∀ e ∈ notes, e.IsNote c := by
  rw [think_eq]
  split
  · cases h : w.emit (c.note worker.name kind content confidence w.now) with
    | mk outcome w' =>
      cases outcome with
      | ok _ =>
        refine ⟨_, progress_of_emit h, ?_⟩
        split
        · simpa using c.isNote_note worker.name kind content confidence w.now
        · simp
      | error fault =>
        refine ⟨[], ?_, by simp⟩
        rw [(emit_refused h).1]
        exact .refl w
  · exact ⟨[], .refl w, by simp⟩

theorem progress_settleIf (w : World σ) (p : Prop) [Decidable p] :
    w.Progress [] [] (if p then w.settle else w) := by
  split
  · exact progress_settle w
  · exact .refl w

theorem progress_heed (w : World σ) (call : Call) (memory : σ) :
    w.Progress [call] [] (heed { w with memory, calls := w.calls ++ [call] } call.reply) := by
  unfold heed
  cases h : call.reply.cancel with
  | none => exact { Progress.refl w with
      calls := rfl
      cancellation := by simp [requested, cancelRequests, cancellation, h] }
  | some reason => exact { Progress.refl w with
      calls := rfl
      hasToken := by simp [cancel]
      cancellation := by
        cases ht : w.token with
        | none => simp [cancellation, cancel, requested, ht]
        | some t =>
          simp [cancellation, cancel, requested, cancelRequests, ht, h, Token.cancellation_cancel] }

theorem progress_wait (w : World σ) (c : Circumstances) (aside : Bool) (r : Reply) :
    w.Progress [] [] (w.wait c aside r) :=
  (progress_settleIf w (aside || r.late)).trans { Progress.refl _ with }

theorem token_settleIf (w : World σ) (p : Prop) [Decidable p] :
    (if p then w.settle else w).token = w.token := by
  split <;> rfl

theorem token_wait (w : World σ) (c : Circumstances) (aside : Bool) (r : Reply) :
    (w.wait c aside r).token = w.token := token_settleIf w _

theorem calls_await (w : World σ) (c : Circumstances) (aside : Bool) (r : Reply) :
    (w.await c aside r).2.calls = w.calls := by
  have hheed : (w.heed r).calls = w.calls := by
    unfold heed
    split <;> rfl
  exact ((w.heed r).progress_wait c aside r).calls.trans ((List.append_nil _).trans hheed)

theorem cutOff?_cases {c : Circumstances} {w : World σ} {ending : Ending}
    (h : w.cutOff? c = some ending) :
    ending = .interrupted ∧ w.isReached c.scope = true ∨
      ending = .timedOut ∧ w.isReached c.scope = false ∧ w.overdue = true := by
  unfold cutOff? at h
  split at h
  · next hreached =>
    cases h
    exact .inl ⟨rfl, hreached⟩
  · next hreached =>
    obtain ⟨hoverdue, h⟩ := Option.ite_none_right_eq_some.1 h
    cases h
    exact .inr ⟨rfl, Bool.eq_false_iff.2 hreached, hoverdue⟩

/-- What is cut off comes to nothing of its own. -/
theorem cutOff?_ne_ending {c : Circumstances} {w : World σ} {ending : Ending}
    (h : w.cutOff? c = some ending) (r : Reply) : ending ≠ r.ending := by
  intro heq
  unfold Reply.ending at heq
  obtain ⟨rfl, -⟩ | ⟨rfl, -⟩ := cutOff?_cases h
  · split at heq <;> cases heq
  · split at heq <;> cases heq

theorem barred?_eq_some_iff {c : Circumstances} {worker : Worker σ} {w : World σ}
    {ending : Ending} :
    w.barred? c worker = some ending ↔ worker.capability.manner ≠ .inline ∧
      w.cutOff? c = some ending := by
  unfold barred?
  split
  · next hinline => simp [hinline]
  · next hmanner => simp [hmanner]

theorem call_of_barred {c : Circumstances} {worker : Worker σ} {w : World σ} {ending : Ending}
    (h : w.barred? c worker = some ending) (answer : Answering σ) (invocation : Invocation) :
    w.call c worker answer invocation = (ending, w) := by
  unfold call
  rw [h]

theorem calls_call {c : Circumstances} {worker : Worker σ} {w : World σ}
    (h : w.barred? c worker = none) (answer : Answering σ) (invocation : Invocation) :
    (w.call c worker answer invocation).2.calls =
      w.calls ++ [⟨worker.name, invocation, (answer invocation w.memory).1⟩] := by
  unfold call
  rw [h]
  simp only [calls_await]
  split <;> rfl

theorem ask_cases (w : World σ) (c : Circumstances) (worker : Worker σ) (request : Request) :
    (∃ fault, w.ask c worker request = (.failed fault, w)) ∨
      ∃ answer, worker.answering request.action = .ok answer ∧
        w.ask c worker request = w.call c worker answer ⟨request.action,
          request, c.step.config⟩ := by
  unfold ask invoke
  cases worker.answering request.action with
  | error fault => exact .inl ⟨fault, rfl⟩
  | ok answer => exact .inr ⟨answer, rfl, rfl⟩

theorem progress_call (c : Circumstances) (worker : Worker σ) (w : World σ) (answer : Answering σ)
    (invocation : Invocation) :
    ∃ calls, w.Progress calls [] (w.call c worker answer invocation).2 ∧ calls.length ≤ 1 ∧
      ∀ call ∈ calls, call.invocation = invocation := by
  unfold call
  split
  · exact ⟨[], .refl w, by simp, by simp⟩
  · have hprepared := progress_settleIf w (worker.capability.manner = .prepared)
    generalize (if worker.capability.manner = .prepared then w.settle else w) = w₁ at hprepared ⊢
    dsimp only
    obtain ⟨reply, memory⟩ := answer invocation w₁.memory
    have hcalled := hprepared.trans (progress_heed w₁ ⟨worker.name, invocation, reply⟩ memory)
    refine ⟨[⟨worker.name, invocation, reply⟩], ?_, by simp, by simp⟩
    exact hcalled.trans (progress_wait _ c _ reply)

theorem progress_ask (c : Circumstances) (worker : Worker σ) (w : World σ) (request : Request) :
    ∃ calls, w.Progress calls [] (w.ask c worker request).2 ∧ calls.length ≤ 1 ∧
      ∀ call ∈ calls, call.invocation.request = request := by
  obtain ⟨fault, hask⟩ | ⟨answer, -, hask⟩ := ask_cases w c worker request
  · rw [hask]
    exact ⟨[], .refl w, by simp, by simp⟩
  · rw [hask]
    obtain ⟨calls, hprogress, hlength, hcalls⟩ :=
      progress_call c worker w answer ⟨request.action, request, c.step.config⟩
    exact ⟨calls, hprogress, hlength, fun call hcall => by rw [hcalls call hcall]⟩

theorem progress_perform (c : Circumstances) (worker : Worker σ) (job : Job) (w : World σ) :
    ∃ calls notes, w.Progress calls notes (perform c worker job w).2 ∧ ∀ e ∈ notes, e.IsNote c := by
  refine perform_invariant (P := fun w' => ∃ calls notes, w.Progress calls notes w' ∧ ∀ e ∈ notes,
    e.IsNote c)
    ?_ ?_ job w ⟨[], [], .refl w, by simp⟩
  · rintro w' kind content confidence ⟨calls, notes, hp, hn⟩
    obtain ⟨more, hmore, hn'⟩ := progress_think c worker w' kind content confidence
    exact ⟨_, _, hp.trans hmore, List.forall_mem_append.2 ⟨hn, hn'⟩⟩
  · rintro w' request ⟨calls, notes, hp, hn⟩
    obtain ⟨more, hmore, -⟩ := progress_ask c worker w' request
    exact ⟨_, _, hp.trans hmore, by simpa using hn⟩

/-- A job makes no more calls than it asks. -/
theorem length_calls_perform {job : Job} {n : Nat} (hjob : job.AsksAtMost n) (w : World σ) :
    (perform c worker job w).2.calls.length ≤ w.calls.length + n := by
  induction job generalizing n w with
  | finish output => exact Nat.le_add_right _ _
  | fail fault => exact Nat.le_add_right _ _
  | think kind content confidence rest ih =>
    obtain ⟨notes, hp, -⟩ := progress_think c worker w kind content confidence
    have hcalls := hp.calls
    rw [List.append_nil] at hcalls
    unfold perform
    split
    · next heq =>
      rw [heq] at hcalls
      rw [← hcalls]
      exact ih hjob _
    · next heq =>
      rw [heq] at hcalls
      rw [← hcalls]
      exact Nat.le_add_right _ _
  | ask request next ih =>
    obtain ⟨hn, hnext⟩ := hjob
    obtain ⟨calls, hp, hlength, -⟩ := progress_ask c worker w request
    have hone : (w.ask c worker request).2.calls.length ≤ w.calls.length + 1 := by
      rw [hp.calls, List.length_append]
      omega
    unfold perform
    split
    · next v w' heq =>
      rw [heq] at hone
      dsimp only at hone
      have hrest := ih v (hnext v) w'
      omega
    · next heq =>
      rw [heq] at hone
      dsimp only at hone ⊢
      omega

theorem token_emit (w : World σ) (e : Event) : (w.emit e).2.token = w.token := by
  unfold emit
  split
  · split <;> rfl
  · rfl

/-- Replies may cancel the token, and a job does nothing else to it. -/
theorem token_perform {P : Option Token → Prop}
    (hcancel : ∀ token reason, P token → P (token.map fun t => t.cancel reason)) (c : Circumstances)
    (worker : Worker σ) (job : Job) {w : World σ} (h : P w.token) :
    P (perform c worker job w).2.token := by
  refine perform_invariant (P := fun w => P w.token) ?_ ?_ job w h
  · intro w kind content confidence hw
    unfold think
    split
    · rw [token_emit]
      exact hw
    · exact hw
  · intro w request hw
    obtain ⟨fault, hask⟩ | ⟨answer, -, hask⟩ := ask_cases w c worker request
    · rw [hask]
      exact hw
    · rw [hask]
      unfold call
      split
      · exact hw
      · dsimp only [await]
        rw [token_wait]
        unfold heed
        split
        · apply hcancel
          rw [token_settleIf]
          exact hw
        · rw [token_settleIf]
          exact hw

/-- A scope of the token in flight, which any cancellation has reached. -/
def Guards (w : World σ) (scope : Option Nat) : Prop :=
  ∀ t, w.token = some t → ∃ s, scope = some s ∧ s ∈ t.inFlight ∧
    (t.cancelled = true → s ∈ t.reached)

theorem guards_enterScope (w : World σ) : w.enterScope.2.Guards w.enterScope.1 := by
  intro t ht
  unfold enterScope at ht ⊢
  cases hw : w.token with
  | none => simp [hw] at ht
  | some t₀ =>
    simp only [hw, Option.some.injEq] at ht
    subst ht
    refine ⟨t₀.entered, rfl, by simp [Token.enter], ?_⟩
    intro hcancelled
    have : t₀.cancelled = true := hcancelled
    simp [Token.enter, this]

theorem Guards.cancel {w : World σ} {scope : Option Nat} (h : w.Guards scope)
    (reason : Option String) :
    (w.cancel reason).Guards scope := by
  intro t ht
  obtain ⟨t₀, ht₀, rfl⟩ := Option.map_eq_some_iff.1 ht
  obtain ⟨s, hs, hflight, hreached⟩ := h t₀ ht₀
  refine ⟨s, hs, ?_, ?_⟩
  · rw [t₀.cancel_inFlight]
    exact hflight
  · intro _
    unfold Token.cancel
    split
    · next hc => exact hreached hc
    · exact List.mem_append_right _ hflight

theorem guards_perform {scope : Option Nat} (c : Circumstances) (worker : Worker σ) (job : Job)
    {w : World σ} (h : w.Guards scope) :
    (perform c worker job w).2.Guards scope :=
  token_perform (P := fun token => Guards { w with token } scope) (fun _ reason h =>
    h.cancel reason) c worker job h

theorem Guards.isReached {w : World σ} {scope : Option Nat} (h : w.Guards scope)
    {reason : Option String} (hc : w.cancellation = some reason) :
    (w.leaveScope scope).isReached scope = true := by
  obtain ⟨t, ht, hreason⟩ := Option.bind_eq_some_iff.1 hc
  obtain ⟨s, rfl, -, hreached⟩ := h t ht
  have hmem : s ∈ t.reached := hreached (t.cancelled_of_cancellation hreason)
  simp [leaveScope, World.isReached, ht, Token.leave, Token.hasReached, hmem]

end World
end StepFlow
