import StepFlow.Proofs.Event.Emission
import StepFlow.Run.Perform

/-!
# Progress of a world

What the operations of a run do to the world: which calls and events they add, and what becomes of
the token. A token is cancelled by the first reply that asks for it, and its reason is the one of
that reply for good.
-/
namespace StepFlow

/-- Why the token is cancelled, if it is. -/
def Token.cancellation (t : Token) : Option (Option String) :=
  if t.cancelled then some t.reason else none

theorem Token.cancellation_cancel (t : Token) (reason : Option String) :
    (t.cancel reason).cancellation = t.cancellation.or (some reason) := by
  unfold cancel cancellation
  cases h : t.cancelled <;> simp [h]

theorem Token.cancel_inFlight (t : Token) (reason : Option String) :
    (t.cancel reason).inFlight = t.inFlight := by
  unfold cancel
  split <;> rfl

theorem Token.cancelled_of_cancellation (t : Token) {reason : Option String}
    (h : t.cancellation = some reason) :
    t.cancelled = true := by
  unfold cancellation at h
  split at h
  · assumption
  · cases h

theorem Token.uncancelled_of_cancellation (t : Token) (h : t.cancellation = none) :
    t.cancelled = false := by
  unfold cancellation at h
  split at h
  · cases h
  · next hc => exact Bool.eq_false_iff.2 hc

/-- The cancellations that replies to calls ask for, in order. -/
def cancelRequests (calls : List Call) : List (Option String) :=
  calls.filterMap fun call => call.reply.cancel

namespace World
variable {σ : Type}

def cancellation (w : World σ) : Option (Option String) := w.token.bind Token.cancellation

theorem checkToken_eq (w : World σ) :
    w.checkToken = match w.cancellation with
      | some reason => .error (.cancelled reason)
      | none => .ok () := by
  unfold checkToken cancellation
  cases w.token with
  | none => rfl
  | some t => cases h : t.cancelled <;> simp [Token.check, Token.cancellation, h]

/-- The first cancellation that calls ask for; without a token nobody can ask. -/
def requested (w : World σ) (calls : List Call) : Option (Option String) :=
  if w.token.isSome then (cancelRequests calls).head? else none

/-- A later world, after some calls were made and some events emitted. -/
structure Progress (w : World σ) (made : List Call) (told : List Event) (w' : World σ) : Prop where
  calls : w'.calls = w.calls ++ made
  emitted : w'.emitted = w.emitted ++ told
  exchange : w.exchange.Keeps w'.exchange
  emitting : w'.emitting = w.emitting
  now : w'.now = w.now
  hasToken : w'.token.isSome = w.token.isSome
  cancellation : w'.cancellation = w.cancellation.or (w.requested made)

namespace Progress
variable {w w' w'' : World σ} {made made' : List Call} {told told' : List Event}

theorem refl (w : World σ) : w.Progress [] [] w where
  calls := (List.append_nil _).symm
  emitted := (List.append_nil _).symm
  exchange := .refl _
  emitting := rfl
  now := rfl
  hasToken := rfl
  cancellation := by simp [requested, cancelRequests]

theorem trans (h : w.Progress made told w') (g : w'.Progress made' told' w'') :
    w.Progress (made ++ made') (told ++ told') w'' where
  calls := by rw [g.calls, h.calls, List.append_assoc]
  emitted := by rw [g.emitted, h.emitted, List.append_assoc]
  exchange := h.exchange.trans g.exchange
  emitting := g.emitting.trans h.emitting
  now := g.now.trans h.now
  hasToken := g.hasToken.trans h.hasToken
  cancellation := by
    rw [g.cancellation, h.cancellation, requested, requested, requested, h.hasToken]
    split
    · rw [cancelRequests, cancelRequests, cancelRequests, List.filterMap_append,
        List.head?_append, Option.or_assoc]
    · simp

theorem cancellation_of_no_calls (h : w.Progress [] told w') :
    w'.cancellation = w.cancellation := by
  rw [h.cancellation]
  simp [requested, cancelRequests]

/-- A cancellation stays, with its reason. -/
theorem cancellation_stays (h : w.Progress made told w') {reason : Option String}
    (hw : w.cancellation = some reason) : w'.cancellation = some reason := by
  rw [h.cancellation, hw, Option.some_or]

end Progress

structure Open (w : World σ) : Prop where
  emitting : w.emitting = true
  capacity : w.exchange.bus.capacity.check = .ok ()
  emitters : w.exchange.emitters ≠ []

theorem Open.of_keeps {w w' : World σ} (hw : w.Open) (h : w.exchange.Keeps w'.exchange)
    (hemitting : w'.emitting = w.emitting) : w'.Open where
  emitting := hemitting.trans hw.emitting
  capacity := by
    rw [h.bus]
    exact hw.capacity
  emitters := by
    have hlength := h.emitters
    intro he
    rw [he] at hlength
    exact hw.emitters (List.eq_nil_of_length_eq_zero hlength.symm)

theorem Progress.open {w w' : World σ} {made : List Call} {told : List Event}
    (h : w.Progress made told w') (hw : w.Open) : w'.Open := hw.of_keeps h.exchange h.emitting

theorem progress_of_emit {w w' : World σ} {e : Event} (h : w.emit e = (.ok (), w')) :
    w.Progress [] (if w.emitting then [e] else []) w' := by
  unfold emit at h
  split at h
  · next hemitting =>
    split at h
    · next exchange hx =>
      cases h
      rw [if_pos hemitting]
      exact { Progress.refl w with emitted := rfl, exchange := Exchange.keeps_emit hx }
    · cases h
  · next hemitting =>
    cases h
    rw [if_neg hemitting]
    exact .refl w

theorem emit_refused {w w' : World σ} {e : Event} {fault : Fault}
    (h : w.emit e = (.error fault, w')) :
    w' = w ∧ (fault = .unknownName "emitter" ∨ w.exchange.bus.capacity.check = .error fault) := by
  unfold emit at h
  split at h
  · split at h
    · cases h
    · next hx =>
      cases h
      exact ⟨rfl, Exchange.emit_refused hx⟩
  · cases h

theorem Open.emit_eq {w : World σ} (hw : w.Open) (e : Event) :
    ∃ exchange, w.emit e = (.ok (), { w with exchange, emitted := w.emitted ++ [e] }) ∧
    w.exchange.Keeps exchange := by
  obtain ⟨exchange, hx, hkeeps⟩ := Exchange.emit_accepted hw.capacity hw.emitters e
  refine ⟨exchange, ?_, hkeeps⟩
  simp only [World.emit, hw.emitting, hx, if_true]

theorem Open.emit {w : World σ} (hw : w.Open) (e : Event) :
    ∃ w', w.emit e = (.ok (), w') ∧ w.Progress [] [e] w' := by
  obtain ⟨exchange, hemit, hkeeps⟩ := hw.emit_eq e
  exact ⟨_, hemit, { Progress.refl w with emitted := rfl, exchange := hkeeps }⟩

theorem Open.progress_emit {w w' : World σ} {e : Event} (hw : w.Open)
    (h : w.emit e = (.ok (), w')) :
    w.Progress [] [e] w' := by
  have hprogress := progress_of_emit h
  rw [if_pos hw.emitting] at hprogress
  exact hprogress

theorem progress_settle (w : World σ) : w.Progress [] [] w.settle :=
  { Progress.refl w with exchange := Exchange.keeps_settle _ }

theorem progress_enterScope (w : World σ) : w.Progress [] [] w.enterScope.2 := by
  unfold enterScope
  split
  · next t ht =>
    have hc : t.enter.2.cancellation = w.cancellation := by rw [cancellation, ht]; rfl
    exact { Progress.refl w with
      hasToken := by rw [ht]; rfl
      cancellation := hc.trans (Progress.refl w).cancellation }
  · exact { Progress.refl w with }

theorem progress_leaveScope (w : World σ) (scope : Option Nat) :
    w.Progress [] [] (w.leaveScope scope) := by
  unfold leaveScope
  split
  · next t s ht =>
    have hc : (t.leave s).cancellation = w.cancellation := by rw [cancellation, ht]; rfl
    exact { Progress.refl w with
      hasToken := by rw [ht]; rfl
      cancellation := hc.trans (Progress.refl w).cancellation }
  · exact .refl w

end World
end StepFlow
