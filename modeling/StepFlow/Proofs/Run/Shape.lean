import StepFlow.Proofs.Event.Voice
import StepFlow.Proofs.Run.History

/-!
# The shape of a run

On a fresh context a run departs, takes its course, and is closed. It is closed with one event, and
the context tells how.
-/
namespace StepFlow

/-- A context of a run that has not started. -/
structure Context.Fresh (c : Context) : Prop where
  state : c.state = .notStarted
  currentIndex : c.currentIndex = 0
  results : c.results = []
  history : c.history = []
  error : c.error = none
  endTime : c.endTime = none

def Context.new (callerContext : Entries) : Context :=
  { flowId := "flow", callerContext, sessionId := "session" }

theorem Context.fresh_new (callerContext : Entries) : (new callerContext).Fresh :=
  ⟨rfl, rfl, rfl, rfl, rfl, rfl⟩

/-- The context of a run that is closed with a result. A fault that cannot tell its text leaves it
as it is. -/
def Context.closed (c : Context) (now : Moment) : Except Fault Unit → Context
  | .ok () => { c with state := .completed, error := none, endTime := some now }
  | .error fault =>
    match fault.spoken with
    | .ok _ =>
      { c with
        state := Executor.stateAfter fault, error := some (.record fault.report),
        endTime := some now }
    | .error _ => c

theorem Context.finish_eq {c : Context} (hc : c.endTime = none) (now : Moment) {state : RunState}
    (hstate : state.isTerminal = true) (error : Option Value) :
    c.finish now state error = .ok { c with state, error, endTime := some now } := by
  simp [finish, isFinished, hc, hstate]

/-- The exchange of a world takes events from a run. -/
def World.TakesEvents {σ : Type} (w : World σ) : Prop := w.exchange.bus.capacity.check = .ok ()

/-- A context of a run that is over for its caller, but was never closed. -/
structure Context.Unclosed (c : Context) : Prop where
  state : c.state = .running
  error : c.error = none
  endTime : c.endTime = none

namespace Context
variable (c : Context) (now : Moment)

theorem closed_of_spoken {fault : Fault} {text : String} (h : fault.spoken = .ok text) :
    c.closed now (.error fault) =
      { c with
        state := Executor.stateAfter fault, error := some (.record fault.report),
        endTime := some now } := by
  simp only [closed, h]

theorem closed_of_silent {fault own : Fault} (h : fault.spoken = .error own) :
    c.closed now (.error fault) = c := by
  simp only [closed, h]

theorem closed_cases (result : Except Fault Unit) :
    ∃ state error endTime, c.closed now result = { c with state, error, endTime } := by
  unfold closed
  split
  · exact ⟨_, _, _, rfl⟩
  · split
    · exact ⟨_, _, _, rfl⟩
    · exact ⟨c.state, c.error, c.endTime, rfl⟩

theorem result?_closed (result : Except Fault Unit) (id : String) :
    (c.closed now result).result? id = c.result? id := by
  obtain ⟨state, error, endTime, h⟩ := c.closed_cases now result
  rw [h]
  rfl

end Context

namespace Executor
variable {σ : Type} {x : Executor σ} {f : Flow} {c : Context} {w : World σ} {start : String}

theorem depart_context {r : Except Fault String} {c' : Context} {w' : World σ} (hfresh : c.Fresh)
    (h : depart f c w = (r, c', w')) : c'.history = [] ∧ c'.results = [] ∧ c'.endTime = none := by
  have hstarted {start : String} {c₁ : Context} (h : c.start w.now start = .ok c₁) :
      c₁.history = [] ∧ c₁.results = [] ∧ c₁.endTime = none := by
    unfold Context.start at h
    split at h <;> cases h
    exact ⟨hfresh.history, hfresh.results, hfresh.endTime⟩
  unfold depart at h
  split at h
  · cases h
    exact ⟨hfresh.history, hfresh.results, hfresh.endTime⟩
  · split at h
    · cases h
      exact ⟨hfresh.history, hfresh.results, hfresh.endTime⟩
    · next hstart =>
      split at h <;> cases h <;> exact hstarted hstart

theorem books_run (hfresh : c.Fresh) :
    (x.run f c w).2.1.Books ((x.visits f c w).filterMap Visit.executed?) := by
  have hblank {c' : Context} (hhistory : c'.history = []) (hresults : c'.results = []) :
      c'.Books [] := {
    history := hhistory
    keys := by simp [hhistory, hresults]
    results := by simp [Context.result?, hresults, latest?]
    ofSteps := by simp }
  unfold run drive visits passes
  dsimp only
  split
  · next hdepart =>
    obtain ⟨hhistory, hresults, -⟩ := depart_context hfresh hdepart
    rw [hdepart]
    exact hblank hhistory hresults
  · next start c' w' hdepart =>
    obtain ⟨hhistory, hresults, hendTime⟩ := depart_context hfresh hdepart
    have hwalked := books_walk (x := x) (f := f) (w := w') (x.config.maxSteps.toNat - 1) start
      hendTime (hblank hhistory hresults)
    rw [hdepart]
    dsimp only
    generalize x.walk f (x.config.maxSteps.toNat - 1) start c' w' = out at hwalked
    obtain ⟨state, error, endTime, hclose⟩ := close_context out.1 out.2.1 out.2.2
    rw [hclose]
    exact { hwalked with }

theorem sameIds_run (hfresh : c.Fresh) : SameIds c (x.run f c w).2.1 := by
  have hdeparted : SameIds c (depart f c w.openEmitter).2.1 := by
    unfold depart
    split
    · exact .refl c
    · split
      · exact .refl c
      · next hstart =>
        unfold Context.start at hstart
        split at hstart <;> cases hstart
        split <;> exact ⟨rfl, rfl⟩
  unfold run drive
  dsimp only
  split
  · next hdepart =>
    rw [hdepart] at hdeparted
    exact hdeparted
  · next start c' w' hdepart =>
    rw [hdepart] at hdeparted
    have hendTime := (depart_context hfresh hdepart).2.2
    have hwalked := sameIds_walk (x := x) (f := f) (w := w') (x.config.maxSteps.toNat - 1) start
      hendTime
    generalize x.walk f (x.config.maxSteps.toNat - 1) start c' w' = out at hwalked
    obtain ⟨state, error, endTime, hclose⟩ := close_context out.1 out.2.1 out.2.2
    rw [hclose]
    exact ⟨hwalked.flowId.trans hdeparted.flowId, hwalked.sessionId.trans hdeparted.sessionId⟩

/-- A run that comes to its end ends with a step after which the transition rule names no other. -/
theorem last_of_run (h : (x.run f c w).1 = .ok ()) :
    ∃ before v r, x.visits f c w = before ++ [v] ∧ v.outcome = .ok r ∧
      nextStep v.step r.status r.output f = .ok none := by
  unfold run drive at h
  dsimp only at h
  unfold visits passes
  split at h
  · cases h
  · next start c' w' hdepart =>
    rw [hdepart]
    exact last_of_walk _ start (walk_of_close h)

theorem executed_of_run (h : (x.run f c w).1 = .ok ()) :
    (x.visits f c w).filterMap Visit.executed? ≠ [] := by
  obtain ⟨before, v, r, hvisits, hr, -⟩ := last_of_run h
  simp [hvisits, Visit.executed?_of_ok hr]

theorem history_run (hfresh : c.Fresh) :
    (x.run f c w).2.1.history = ((x.visits f c w).filterMap Visit.executed?).map fun e => e.1.id :=
  (books_run hfresh).history

def Tellable (result : Except Fault Unit) : Prop :=
  ∀ fault own, result = .error fault → fault.spoken ≠ .error own

theorem tellable_ok : Tellable (.ok ()) := by
  rintro _ _ ⟨⟩

theorem tellable_of_spoken {fault : Fault} {text : String} (h : fault.spoken = .ok text) :
    Tellable (.error fault) := by
  rintro _ own ⟨⟩ hown
  cases h.symm.trans hown

theorem Tellable.spoken {fault : Fault} (h : Tellable (.error fault)) :
    ∃ text, fault.spoken = .ok text := by
  cases hspoken : fault.spoken with
  | ok text => exact ⟨text, rfl⟩
  | error own => exact absurd hspoken (h fault own rfl)

/-- A result that cannot be told is a fault without a text. -/
theorem tellable_or_silent (result : Except Fault Unit) :
    Tellable result ∨ ∃ fault own, result = .error fault ∧ fault.spoken = .error own := by
  cases result with
  | ok _ => exact .inl tellable_ok
  | error fault =>
    cases h : fault.spoken with
    | ok text => exact .inl (tellable_of_spoken h)
    | error own => exact .inr ⟨fault, own, rfl, h⟩

/-- The result of a walk as a run ends with it. The failure of a fault to tell its text takes the
place of the fault. -/
def toldAs : Except Fault Unit → Except Fault Unit
  | .ok () => .ok ()
  | .error fault => fault.spoken >>= fun _ => .error fault

theorem Tellable.toldAs {result : Except Fault Unit} (h : Tellable result) :
    toldAs result = result := by
  cases result with
  | ok _ => rfl
  | error fault =>
    obtain ⟨text, hspoken⟩ := h.spoken
    rw [Executor.toldAs, hspoken]
    rfl

theorem toldAs_of_silent {fault own : Fault} (h : fault.spoken = .error own) :
    toldAs (.error fault) = .error own := by
  rw [toldAs, h]
  rfl

theorem toldAs_eq_ok {result : Except Fault Unit} (h : toldAs result = .ok ()) :
    result = .ok () := by
  rcases tellable_or_silent result with htold | ⟨fault, own, rfl, hsilent⟩
  · exact htold.toldAs ▸ h
  · cases (toldAs_of_silent hsilent).symm.trans h

theorem eq_of_toldAs {result : Except Fault Unit} {fault : Fault}
    (h : toldAs result = .error fault) :
    result = .error fault ∨ fault.kind? = none := by
  rcases tellable_or_silent result with htold | ⟨other, own, rfl, hsilent⟩
  · exact .inl (htold.toldAs ▸ h)
  · rw [toldAs_of_silent hsilent] at h
    cases h
    exact .inr (Fault.kind?_of_spoken hsilent)

def closingEvent (c : Context) (now : Moment) : Except Fault Unit → Event
  | .ok () => arrivalEvent c now
  | .error fault => abortEvent c fault now

/-- The events with which a run is closed: none for a result that cannot be told. -/
def closingEvents (c : Context) (now : Moment) : Except Fault Unit → List Event
  | .ok () => [arrivalEvent c now]
  | .error fault =>
    match fault.spoken with
    | .ok _ => [abortEvent c fault now]
    | .error _ => []

theorem Tellable.closingEvents {result : Except Fault Unit} (h : Tellable result) (c : Context)
    (now : Moment) :
    closingEvents c now result = [closingEvent c now result] := by
  cases result with
  | ok _ => rfl
  | error fault =>
    obtain ⟨text, hspoken⟩ := h.spoken
    simp only [Executor.closingEvents, hspoken, closingEvent]

theorem closingEvents_of_silent {fault own : Fault} (h : fault.spoken = .error own) (c : Context)
    (now : Moment) :
    closingEvents c now (.error fault) = [] := by
  simp only [closingEvents, h]

theorem isTerminal_stateAfter (fault : Fault) : (stateAfter fault).isTerminal = true := by
  unfold stateAfter
  split <;> rfl

theorem close_of_silent {fault own : Fault} (h : fault.spoken = .error own) :
    close (.error fault) c w = (.error own, c, w) := by
  simp only [close, abort, h]

/-- A run is closed with a result that can be told, unless the event about this is refused. -/
theorem close_of_tellable {result : Except Fault Unit} (htold : Tellable result)
    (hc : c.endTime = none) :
    close result c w =
      ((w.emit (closingEvent (c.closed w.now result) w.now result)).1 >>= fun _ =>
        result, c.closed w.now result,
        (w.emit (closingEvent (c.closed w.now result) w.now result)).2) := by
  cases result with
  | ok _ =>
    have hfinish : c.finish w.now .completed none = .ok (c.closed w.now (.ok ())) :=
      c.finish_eq hc w.now rfl none
    unfold close complete closingEvent
    dsimp only
    rw [hfinish]
    dsimp only
    generalize w.emit (arrivalEvent (c.closed w.now (.ok ())) w.now) = told
    obtain ⟨told, w'⟩ := told
    cases told <;> rfl
  | error fault =>
    obtain ⟨text, hspoken⟩ := htold.spoken
    have hfinish : c.finish w.now (stateAfter fault) (some (.record fault.report)) =
        .ok (c.closed w.now (.error fault)) := by
      rw [c.closed_of_spoken w.now hspoken]
      exact c.finish_eq hc w.now (isTerminal_stateAfter fault) _
    unfold close abort closingEvent
    dsimp only
    rw [hspoken, hfinish]
    dsimp only [Except.toOption, Option.getD]
    generalize w.emit (abortEvent (c.closed w.now (.error fault)) fault w.now) = told
    obtain ⟨told, w'⟩ := told
    cases told <;> rfl

theorem close_eq (result : Except Fault Unit) (hw : w.Open) (hc : c.endTime = none) :
    ∃ w', close result c w = (toldAs result, c.closed w.now result, w') ∧
      w.Progress [] (closingEvents (c.closed w.now result) w.now result) w' := by
  rcases tellable_or_silent result with htold | ⟨fault, own, rfl, hsilent⟩
  · obtain ⟨w', hemit, hclosing⟩ := hw.emit (closingEvent (c.closed w.now result) w.now result)
    refine ⟨w', ?_, htold.closingEvents .. ▸ hclosing⟩
    rw [close_of_tellable htold hc, hemit, htold.toldAs]
    rfl
  · refine ⟨w, ?_, ?_⟩
    · rw [close_of_silent hsilent, toldAs_of_silent hsilent, c.closed_of_silent w.now hsilent]
    · rw [closingEvents_of_silent hsilent]
      exact .refl w

/-- How a run goes: what it departs with, where its course leads, and what it leaves. -/
structure Ran (x : Executor σ) (f : Flow) (c : Context) (w : World σ) (start : String)
    (c₁ : Context) (w₁ : World σ) (out : Except Fault Unit × Context × World σ) (w₂ : World σ) :
    Prop where
  fresh : c.Fresh
  context : c₁ = { c with state := .running, startTime := some w.now, currentStep := some start }
  opened : w₁.Open
  departed : w.openEmitter.Progress [] [departEvent c₁ w.now] w₁
  course : x.Course f (x.config.maxSteps.toNat - 1) start c₁ w₁ (x.visits f c w) out
  closing : out.2.2.Progress [] (closingEvents (out.2.1.closed out.2.2.now out.1) out.2.2.now out.1)
    w₂
  run : x.run f c w = (toldAs out.1, out.2.1.closed out.2.2.now out.1, w₂.closeEmitter)

theorem depart_eq (hstart : f.start = .ok start) (hfresh : c.Fresh) (hw : w.Open) :
    let c' := { c with state := .running, startTime := some w.now, currentStep := some start }
    ∃ w', depart f c w = (.ok start, c', w') ∧ w.Progress [] [departEvent c' w.now] w' := by
  intro c'
  have hstarted : c.start w.now start = .ok c' := by
    unfold Context.start
    rw [if_pos hfresh.state]
  obtain ⟨w', hemit, hdeparted⟩ := hw.emit (departEvent c' w.now)
  refine ⟨w', ?_, hdeparted⟩
  unfold depart
  rw [hstart]
  dsimp only
  rw [hstarted]
  dsimp only
  rw [hemit]

theorem ran (hstart : f.start = .ok start) (hfresh : c.Fresh) (hw : w.TakesEvents) :
    ∃ c₁ w₁ out w₂, x.Ran f c w start c₁ w₁ out w₂ := by
  have hopen : w.openEmitter.Open := ⟨rfl, hw, by simp [World.openEmitter, Exchange.enter]⟩
  obtain ⟨w₁, hdepart, hdeparted⟩ := depart_eq hstart hfresh hopen
  have hopened : w₁.Open := hdeparted.open hopen
  generalize hc₁ : { c with
    state := .running, startTime := some w.openEmitter.now, currentStep := some start } = c₁
    at hdepart hdeparted
  have hendTime : c₁.endTime = none := hc₁ ▸ hfresh.endTime
  have hvisits : x.visits f c w = x.visitsOf f
      (x.passesFrom f (x.config.maxSteps.toNat - 1) start c₁ w₁) := by
    unfold visits passes
    rw [hdepart]
  have hcourse := course x f (x.config.maxSteps.toNat - 1) start hopened hendTime
  rw [← hvisits] at hcourse
  generalize hwalk : x.walk f (x.config.maxSteps.toNat - 1) start c₁ w₁ = out at hcourse
  obtain ⟨result, c₂, w'⟩ := out
  have hw' : w'.Open := (hcourse.through hopened).open hopened
  obtain ⟨w₂, hclose, hclosing⟩ := close_eq result hw' (hcourse.endTime.trans hendTime)
  refine ⟨c₁, w₁, _, w₂, hfresh, hc₁.symm, hopened, hdeparted, hcourse, hclosing, ?_⟩
  unfold run drive
  rw [hdepart]
  dsimp only
  rw [hwalk]
  dsimp only
  rw [hclose]

namespace Ran
variable {c₁ : Context} {w₁ w₂ : World σ} {out : Except Fault Unit × Context × World σ}

theorem history (h : x.Ran f c w start c₁ w₁ out w₂) :
    (x.run f c w).2.1.history = ((x.visits f c w).filterMap Visit.executed?).map fun e => e.1.id :=
  history_run h.fresh

theorem calls (h : x.Ran f c w start c₁ w₁ out w₂) :
    (x.run f c w).2.2.calls = w.calls ++ (x.visits f c w).flatMap Visit.calls := by
  obtain ⟨told, hprogress, -⟩ := h.course.through h.opened
  have hall := (h.departed.trans hprogress).trans h.closing
  rw [h.run]
  dsimp only [World.closeEmitter]
  rw [hall.calls, List.nil_append, List.append_nil]
  rfl

/-- A run tells that it departs, what its visits tell, and how it is closed. -/
theorem emitted (h : x.Ran f c w start c₁ w₁ out w₂) :
    ∃ told, (x.run f c w).2.2.emitted =
        w.emitted ++ (departEvent c₁ w.now :: told ++
          closingEvents (x.run f c w).2.1 out.2.2.now out.1) ∧
      startsOf told = (x.visits f c w).map Visit.startEvent ∧ ∀ e ∈ told, IsStepEvent e := by
  obtain ⟨told, hprogress, hstarts, hevents⟩ := h.course.through h.opened
  have hall := (h.departed.trans hprogress).trans h.closing
  refine ⟨told, ?_, hstarts, hevents⟩
  rw [h.run]
  dsimp only [World.closeEmitter]
  rw [hall.emitted]
  rfl

/-- A run is cancelled by what came before it, or else by the first reply that asks for it. -/
theorem cancellation (h : x.Ran f c w start c₁ w₁ out w₂) :
    (x.run f c w).2.2.cancellation = w.cancellation.or
      (w.requested ((x.visits f c w).flatMap Visit.calls)) := by
  obtain ⟨told, hprogress, -⟩ := h.course.through h.opened
  have hall := (h.departed.trans hprogress).trans h.closing
  rw [List.nil_append, List.append_nil] at hall
  rw [h.run]
  exact hall.cancellation

theorem cancellation_before (h : x.Ran f c w start c₁ w₁ out w₂) :
    w₁.cancellation = w.cancellation :=
  h.departed.cancellation_of_no_calls

theorem cancellation_after (h : x.Ran f c w start c₁ w₁ out w₂) :
    (x.run f c w).2.2.cancellation = out.2.2.cancellation := by
  rw [h.run]
  exact h.closing.cancellation_of_no_calls

theorem result (h : x.Ran f c w start c₁ w₁ out w₂) : (x.run f c w).1 = toldAs out.1 := by
    rw [h.run]

theorem state (h : x.Ran f c w start c₁ w₁ out w₂) (htold : Tellable out.1) :
    (x.run f c w).2.1.state = match out.1 with
      | .ok () => .completed
      | .error fault => stateAfter fault := by
  rw [h.run]
  generalize out.1 = result at htold
  cases result with
  | ok _ => rfl
  | error fault =>
    obtain ⟨text, hspoken⟩ := htold.spoken
    dsimp only
    rw [Context.closed_of_spoken _ _ hspoken]

theorem unclosed {fault own : Fault} (h : x.Ran f c w start c₁ w₁ out w₂)
    (hresult : out.1 = .error fault) (hsilent : fault.spoken = .error own) :
    (x.run f c w).2.1.Unclosed := by
  rw [h.run, hresult]
  dsimp only
  rw [Context.closed_of_silent _ _ hsilent]
  obtain ⟨hstate, herror⟩ := h.course.unended
  rw [h.context] at hstate herror
  refine ⟨hstate, herror.trans h.fresh.error, ?_⟩
  rw [h.course.endTime, h.context]
  exact h.fresh.endTime

end Ran

/-- A bus that refuses the events of a kind: somebody listens to them, and its capacity means
nothing. -/
def refusing (kind : EventKind) : Bus :=
  Bus.subscribe { capacity := .fractional } kind { name := "tap" }

theorem admit_refusing (kind : EventKind) :
    Bus.admit (refusing kind) kind = .error .bufferFractional := by
  cases kind <;> rfl

theorem depart_refused {fault : Fault} (hstart : f.start = .ok start) (hfresh : c.Fresh)
    (hrefused : w.exchange.bus.admit .flowStart = .error fault) :
    depart f c w.openEmitter =
      (.error fault, { c with
        state := .running, startTime := some w.now, currentStep := some start },
        w.openEmitter) := by
  have hstarted : c.start w.openEmitter.now start =
      .ok { c with state := .running, startTime := some w.now, currentStep := some start } := by
    unfold Context.start
    rw [if_pos hfresh.state]
    rfl
  unfold depart
  rw [hstart]
  dsimp only
  rw [hstarted]
  dsimp only
  generalize hevent : departEvent _ _ = e
  have hemit := Exchange.emit_of_voiced w.exchange.voiced_enter e
  have hkind : e.kind = .flowStart := hevent ▸ rfl
  rw [hkind, show w.exchange.enter.bus = w.exchange.bus from rfl, hrefused] at hemit
  have htold : w.openEmitter.emit e = (.error fault, w.openEmitter) := by
    unfold World.emit
    rw [show w.openEmitter.exchange = w.exchange.enter from rfl, hemit]
    rfl
  rw [htold]

/-- A run whose start is refused is left as it is then. -/
theorem run_refused {fault : Fault} (hstart : f.start = .ok start) (hfresh : c.Fresh)
    (hrefused : w.exchange.bus.admit .flowStart = .error fault) :
    x.run f c w =
      (.error fault, { c with
        state := .running, startTime := some w.now, currentStep := some start },
        w.openEmitter.closeEmitter) := by
  unfold run drive
  rw [depart_refused hstart hfresh hrefused]

def lone (maxSteps : Int) (reply : Reply) : Executor Unit where
  config := { maxSteps }
  workers :=
    [("default", ⟨"default", "FunctionWorker", .function ActionKind.all .inline fun _ m =>
      (reply, m)⟩)]

end Executor
end StepFlow
