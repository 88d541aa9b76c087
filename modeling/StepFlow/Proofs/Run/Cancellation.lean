import StepFlow.Proofs.Flow.References
import StepFlow.Proofs.Run.History
import StepFlow.Proofs.Run.Path

/-!
# Cancelled runs

A cancellation stops a run: after it no further step starts. The step that it meets is the last, its
result is lost, and the run is closed as cancelled for the reason that was given first.
-/
namespace StepFlow

namespace Executor
variable {σ : Type} {x : Executor σ} {f : Flow} {c : Context} {w : World σ}

/-- Visits of which the last is met by a cancellation, so that its result is lost. -/
structure CutShort (vs : List (Visit σ)) (reason : Option String) (before : List (Visit σ))
    (last : Visit σ) (r : StepResult) : Prop where
  visits : vs = before ++ [last]
  free : ∀ v ∈ before, v.after.cancellation = none
  uncancelled : last.before.cancellation = none
  cancelled : last.after.cancellation = some reason
  outcome : last.outcome = .ok r
  lost : r.Lost

variable {left : Nat} {current : String} {vs : List (Visit σ)}
  {out : Except Fault Unit × Context × World σ} {reason : Option String}

theorem CutShort.cons {before : List (Visit σ)} {v last : Visit σ} {r : StepResult}
    (hv : v.after.cancellation = none) (h : CutShort vs reason before last r) :
    CutShort (v :: vs) reason (v :: before) last r :=
  { h with
    visits := congrArg (v :: ·) h.visits
    free := List.forall_mem_cons.2 ⟨hv, h.free⟩ }

/-- A course that ends cancelled is stopped by the cancellation, before its first visit or with its
last. -/
theorem Course.cancelled (hw : w.Open) (h : x.Course f left current c w vs out)
    (hreturned : Returned vs) (hc : out.2.2.cancellation = some reason) :
    out.1 = .error (.cancelled reason) ∧
      (w.cancellation = some reason ∧ vs = [] ∨
        w.cancellation = none ∧ ∃ before last r, CutShort vs reason before last r ∧
          out.2.1.result? last.step.id = some r) := by
  induction h with
  | stopped hturn =>
    cases hturn with
    | cancelled hcancelled =>
      cases hcancelled.symm.trans hc
      exact ⟨rfl, .inl ⟨hcancelled, rfl⟩⟩
    | missing huncancelled _ => cases huncancelled.symm.trans hc
    | raised =>
      obtain ⟨r, hr⟩ := hreturned _ List.mem_cons_self
      cases hr
    | undecided hkept huncancelled _ =>
      rw [← hkept.announced.cancellation_of_no_calls] at huncancelled
      cases huncancelled.symm.trans hc
    | cutOff hkept hcancelled =>
      cases (hkept.announced.cancellation_stays hcancelled).symm.trans hc
      obtain ⟨hid, -, hlost⟩ := result_of_execute hw hkept.executed
      have hfree : ∀ v ∈ ([] : List (Visit σ)), v.after.cancellation = none := by simp
      have hcut := CutShort.mk rfl hfree hkept.uncancelled hcancelled rfl (hlost _ hcancelled)
      refine ⟨rfl, .inr ⟨hkept.uncancelled, [], _, _, hcut, ?_⟩⟩
      exact (Context.result?_keep ..).trans (if_pos hid)
  | completed hturn =>
    cases hturn with
    | ended hkept huncancelled _ =>
      rw [← hkept.announced.cancellation_of_no_calls] at huncancelled
      cases huncancelled.symm.trans hc
  | limited hturn =>
    cases hturn with
    | went hkept huncancelled _ =>
      rw [← hkept.announced.cancellation_of_no_calls] at huncancelled
      cases huncancelled.symm.trans hc
  | continued hturn _ ih =>
    have hopen := (hturn.through hw).open hw
    cases hturn with
    | went hkept huncancelled _ =>
      obtain ⟨-, hrest⟩ := List.forall_mem_append.1 hreturned
      obtain ⟨hresult, ⟨hcancelled, -⟩ | ⟨-, before, last, r, hcut, hresult?⟩⟩ := ih hopen hrest hc
      · rw [hkept.announced.cancellation_of_no_calls, huncancelled] at hcancelled
        cases hcancelled
      · exact ⟨hresult, .inr ⟨hkept.uncancelled, _, last, r, hcut.cons huncancelled, hresult?⟩⟩

theorem IsStepEvent.not_closing {e : Event} (h : IsStepEvent e) :
    e.kind ≠ .flowError ∧ e.kind ≠ .flowComplete := by
  rcases h with h | h | h | h <;> simp [h]

/-- A run whose token is cancelled, before it or by a reply to a call of it, ends as cancelled for
the reason that was given first. All steps that start are visits from before the cancellation; the
last of them, which meets it, loses its result. One event says that a fault has closed the run, and
none that it has come to its end. -/
theorem cancelled_run_stops {start : String} {t : Token} (hstart : f.start = .ok start)
    (hfresh : c.Fresh) (hw : w.TakesEvents) (htoken : w.token = some t)
    (hreturned : Returned (x.visits f c w))
    (hcancelled : (x.run f c w).2.2.cancellation = some reason) :
    (x.run f c w).1 = .error (.cancelled reason) ∧ (x.run f c w).2.1.state = .cancelled ∧
    t.cancellation.or (cancelRequests ((x.visits f c w).flatMap Visit.calls)).head? = some reason ∧
    (x.run f c w).2.2.calls = w.calls ++ (x.visits f c w).flatMap Visit.calls ∧
    (x.run f c w).2.1.history = (x.visits f c w).map (fun v => v.step.id) ∧
    (t.cancelled = true ∧ x.visits f c w = [] ∨
      t.cancelled = false ∧ ∃ before last r, CutShort (x.visits f c w) reason before last r ∧
        (x.run f c w).2.1.result? last.step.id = some r) ∧
    ∃ told, (x.run f c w).2.2.emitted = w.emitted ++ told ∧
      startsOf told = (x.visits f c w).map Visit.startEvent ∧
      told.countP (fun e => e.kind == .flowError) = 1 ∧ ∀ e ∈ told, e.kind ≠ .flowComplete := by
  obtain ⟨c₁, w₁, out, w₂, hran⟩ := ran (x := x) hstart hfresh hw
  rw [hran.cancellation_after] at hcancelled
  obtain ⟨hresult, hcourse⟩ := hran.course.cancelled hran.opened hreturned hcancelled
  have htold : Tellable out.1 := hresult ▸ tellable_of_spoken rfl
  have hrun : (x.run f c w).1 = .error (.cancelled reason) := by
    rw [hran.result, htold.toldAs, hresult]
  have hstate : (x.run f c w).2.1.state = .cancelled := by
    rw [hran.state htold, hresult]
    rfl
  have hbefore : w₁.cancellation = t.cancellation := by
    rw [hran.cancellation_before, World.cancellation, htoken]
    rfl
  refine ⟨hrun, hstate, ?_, hran.calls, ?_, ?_, ?_⟩
  · have hfirst := hran.cancellation
    rw [hran.cancellation_after, hcancelled, World.cancellation, World.requested, htoken] at hfirst
    exact hfirst.symm
  · rw [hran.history, map_id_executed hreturned]
  · rw [hbefore] at hcourse
    rcases hcourse with ⟨hearlier, hnone⟩ | ⟨hlater, before, last, r, hcut, hkept⟩
    · exact .inl ⟨t.cancelled_of_cancellation hearlier, hnone⟩
    · refine .inr ⟨t.uncancelled_of_cancellation hlater, before, last, r, hcut, ?_⟩
      rw [hran.run]
      dsimp only
      rw [Context.result?_closed]
      exact hkept
  · obtain ⟨told, hemitted, hstarts, hevents⟩ := hran.emitted
    have hno : told.countP (fun e => e.kind == .flowError) = 0 := by
      apply List.countP_eq_zero.2
      intro e he
      simp [(hevents e he).not_closing.1]
    rw [htold.closingEvents, hresult] at hemitted
    refine ⟨_, hemitted, ?_, ?_, ?_⟩
    · rw [← hstarts, List.cons_append]
      simp [startsOf, departEvent, closingEvent, abortEvent, runEvent]
    · rw [List.cons_append, List.countP_cons, List.countP_append, hno]
      rfl
    · intro e he
      rcases List.mem_append.1 he with he | he
      · rcases List.mem_cons.1 he with rfl | he
        · simp [departEvent, runEvent]
        · exact (hevents e he).not_closing.2
      · rw [List.mem_singleton.1 he]
        simp [closingEvent, abortEvent, runEvent]

theorem round_stops_when_cancelled :
    let x := lone 3 { cancel := some (some "enough"), outcome := .ok (.text "found") }
    let (result, c, w) := x.run Flow.round (.new []) { memory := (), token := some {} }
    w.cancellation = some (some "enough") ∧ result = .error (.cancelled (some "enough")) ∧
      c.state = .cancelled ∧
      c.history = (x.visits Flow.round (.new []) { memory := (), token := some {} }).map fun v =>
        v.step.id := by
  have hcancelled :
      ((lone 3 { cancel := some (some "enough"), outcome := .ok (.text "found") }).run Flow.round
        (.new [])
        { memory := (), token := some {} }).2.2.cancellation = some (some "enough") := by
          decide +kernel
  obtain ⟨hresult, hstate, -, -, hhistory, -⟩ :=
    cancelled_run_stops (w := { memory := (), token := some {} }) (t := {}) rfl
      (Context.fresh_new []) rfl rfl (by decide +kernel) hcancelled
  exact ⟨hcancelled, hresult, hstate, hhistory⟩

/-- A run whose start cannot be told does not end as cancelled. -/
theorem not_every_cancelled_run_stops :
    ¬∀ (x : Executor Unit) (f : Flow) (c : Context) (w : World Unit) (reason : Option String),
      f.steps ≠ [] → c.Fresh →
      Returned (x.visits f c w) → (x.run f c w).2.2.cancellation = some reason →
        (x.run f c w).2.1.state = .cancelled := by
  intro h
  let x := lone 3 { outcome := .ok (.text "found") }
  let w : World Unit := { memory := (), token := some (Token.cancel {} (some "enough")),
                          exchange := { bus := refusing .flowStart } }
  have hstate := h x Flow.round (.new []) w (some "enough") (by decide)
    (Context.fresh_new []) (by decide +kernel) (by decide +kernel)
  have hstart : Flow.round.start = .ok "a" := rfl
  rw [run_refused hstart (Context.fresh_new []) (admit_refusing .flowStart)] at hstate
  cases hstate

end Executor
end StepFlow
