import StepFlow.Engine.Stream
import StepFlow.Proofs.Run.Observers

/-!
# Streams

A stream runs its flow as a blocking run does, and tells what that returns. What a run tells by a
fault the stream tells by an event; only what goes wrong outside the run breaks it off.
-/
namespace StepFlow

theorem StreamEvent.ofFault_session (fault : Fault) (session : String) :
    ofFault fault [(.text "session_id", .text session)] =
      ofFields "error" (fault.report ++ [("session_id", .text session)]) := rfl

namespace Engine
variable {σ : Type} {e : Engine σ} {o : Order} {w : World σ}

/-- The fault of an order for a flow that the catalog does not have. -/
def notFound (e : Engine σ) (o : Order) : Fault := .flowNotFound o.flow (Text.sorted e.catalog.ids)

def refusal (o : Order) (fault : Fault) (now : Moment) : Event where
  kind := .flowError
  flowId := some o.flow
  data := Event.named [("error", .value (.record fault.report))]
  timestamp := now

def startEvent (o : Order) (f : Flow) : StreamEvent :=
  .ofFields "flow-start" [("flow_id", .text f.id), ("session_id", .text o.session),
    ("query", .text o.query)]

def errorEvent (o : Order) (fault : Fault) : StreamEvent :=
  .ofFields "error" (fault.report ++ [("session_id", .text o.session)])

def resultEvent (s : Step) (output : Value) : StreamEvent :=
  .ofFields "result" [("step_id", .text s.id), ("output", output)]

def completeEvent (c : Context) : StreamEvent := .ofFields "flow-complete" [("context", c.toValue)]

def rendering (f : Flow) (c : Context) (output : Value) : Except Fault Value :=
  f.output.spec?.bind fun spec => Output.format output spec c.endTime

def begun (o : Order) (f : Flow) (entries : Entries) : Context where
  flowId := f.id
  query := o.query
  callerContext := entries
  sessionId := o.session

theorem fresh_begun (o : Order) (f : Flow) (entries : Entries) : (begun o f entries).Fresh :=
  ⟨rfl, rfl, rfl, rfl, rfl, rfl⟩

theorem context_eq {f : Flow} {entries : Entries}
    (hcaller : o.callerContext.toEntries = .ok entries) :
    o.context f = .ok (begun o f entries) := by
  unfold Order.context
  rw [hcaller]
  rfl

theorem run_eq {f : Flow} {entries : Entries} (hflow : e.catalog.get? o.flow = some f)
    (hcaller : o.callerContext.toEntries = .ok entries) :
    let out := e.executor.run f (begun o f entries) { w with token := o.token }
    e.run o w = (out.1.map fun _ => out.2.1, { out.2.2 with token := none }) := by
  unfold run require
  rw [hflow]
  dsimp only
  rw [context_eq hcaller]
  unfold runOn
  dsimp only
  generalize e.executor.run f (begun o f entries) { w with token := o.token } = out
  obtain ⟨result, c, w'⟩ := out
  cases result <;> rfl

theorem stream_eq {f : Flow} {entries : Entries} (hflow : e.catalog.get? o.flow = some f)
    (hcaller : o.callerContext.toEntries = .ok entries) :
    let out := e.executor.run f (begun o f entries) { w with token := o.token }
    e.stream o w = (match out.1 with
      | .ok () => ⟨startEvent o f :: (closing f out.2.1).events, (closing f out.2.1).broken⟩
      | .error fault =>
        ⟨[startEvent o f, .ofFault fault [(.text "session_id", .text out.2.1.sessionId)]], none⟩,
      { out.2.2 with token := none }) := by
  unfold stream require
  rw [hflow]
  dsimp only
  rw [context_eq hcaller]
  unfold runOn
  dsimp only
  generalize e.executor.run f (begun o f entries) { w with token := o.token } = out
  obtain ⟨result, c, w'⟩ := out
  cases result <;> rfl

def executed (e : Engine σ) (o : Order) (w : World σ) (f : Flow) (entries : Entries) :
    List (Step × StepResult) :=
  (e.executor.visits f (begun o f entries) { w with token := o.token }).filterMap Visit.executed?

/-- A run for an order has come to its end, with this result of the step that was executed last. -/
structure Finished (e : Engine σ) (o : Order) (w : World σ) (f : Flow) (c : Context) (s : Step)
    (r : StepResult) :
    Prop where
  flow : e.catalog.get? o.flow = some f
  session : c.sessionId = o.session
  lastResult : c.lastResult? = some r
  stepId : r.stepId = s.id
  last : ∃ entries, o.callerContext.toEntries = .ok entries ∧
    (e.executed o w f entries).getLast? = some (s, r)

/-- What a run for an order comes to, and what the stream for it does. -/
inductive Serves (e : Engine σ) (o : Order) (w : World σ) : Except Fault Context × World σ →
    Stream × World σ → Prop
  | unknown {w' : World σ} : e.catalog.get? o.flow = none →
    w' = { w with exchange := w.exchange.publish (refusal o (e.notFound o) w.now) } →
      Serves e o w (.error (e.notFound o), w') (⟨[.ofFields "error" (e.notFound o).report], none⟩,
        w')
  | unmade {f : Flow} {fault : Fault} : e.catalog.get? o.flow = some f →
    o.callerContext.toEntries = .error fault → Serves e o w (.error fault, w) (⟨[], some fault⟩, w)
  | failed {f : Flow} {entries : Entries} {fault : Fault} {w' : World σ} :
    e.catalog.get? o.flow = some f → o.callerContext.toEntries = .ok entries →
      Serves e o w (.error fault, w') (⟨[startEvent o f, errorEvent o fault], none⟩, w')
  | silent {f : Flow} {c : Context} {s : Step} {r : StepResult} {w' : World σ} :
    e.Finished o w f c s r →
    r.output.isNull = true →
    Serves e o w (.ok c, w') (⟨[startEvent o f, completeEvent c], none⟩, w')
  | told {f : Flow} {c : Context} {s : Step} {r : StepResult} {output : Value} {w' : World σ} :
    e.Finished o w f c s r → r.output.isNull = false → rendering f c r.output = .ok output →
      Serves e o w (.ok c, w') (⟨[startEvent o f, resultEvent s output, completeEvent c], none⟩, w')
  | unrendered {f : Flow} {c : Context} {s : Step} {r : StepResult} {fault : Fault} {w' : World σ} :
    e.Finished o w f c s r → r.output.isNull = false → rendering f c r.output = .error fault →
      Serves e o w (.ok c, w') (⟨[startEvent o f], some fault⟩, w')

section Finished
variable {f : Flow} {c : Context} {s : Step} {r : StepResult} (h : e.Finished o w f c s r)
include h

theorem Finished.made {fault : Fault} : o.callerContext.toEntries ≠ .error fault := by
  obtain ⟨entries, hmade, -⟩ := h.last
  simp [hmade]

theorem Finished.known {g : Flow} {entries : Entries} (hflow : e.catalog.get? o.flow = some g)
    (hcaller : o.callerContext.toEntries = .ok entries) :
    f = g ∧ (e.executed o w f entries).getLast? = some (s, r) := by
  obtain ⟨_, hmade, hlast⟩ := h.last
  cases hmade.symm.trans hcaller
  exact ⟨Option.some.inj (h.flow.symm.trans hflow), hlast⟩

/-- What is told after a run that has come to its end depends on the output of the step that was
executed last. -/
theorem Finished.serves (w' : World σ) :
    e.Serves o w (.ok c, w') (⟨startEvent o f :: (closing f c).events, (closing f c).broken⟩,
      w') := by
  unfold closing
  rw [h.lastResult]
  dsimp only
  split
  · next hnull => exact .silent h hnull
  · next hnull =>
    have hgiven : r.output.isNull = false := by simpa using hnull
    split
    · next fault hrendering => exact .unrendered h hgiven hrendering
    · next output hrendering =>
      rw [h.stepId]
      exact .told h hgiven hrendering

end Finished

/-- From the same state a run and a stream serve an order together. -/
theorem serves (e : Engine σ) (o : Order) (w : World σ) :
    e.Serves o w (e.run o w) (e.stream o w) := by
  cases hflow : e.catalog.get? o.flow with
  | none =>
    unfold run stream require
    rw [hflow]
    exact .unknown hflow rfl
  | some f =>
    cases hcaller : o.callerContext.toEntries with
    | error fault =>
      unfold run stream require Order.context
      rw [hflow, hcaller]
      exact .unmade hflow hcaller
    | ok entries =>
      have hfresh := fresh_begun o f entries
      have hids := Executor.sameIds_run (x := e.executor) (f := f)
        (w := { w with token := o.token }) hfresh
      have hbooks := Executor.books_run (x := e.executor) (f := f)
        (w := { w with token := o.token }) hfresh
      have hexecuted := Executor.executed_of_run (x := e.executor) (f := f) (c := begun o f entries)
        (w := { w with token := o.token })
      rw [run_eq hflow hcaller, stream_eq hflow hcaller]
      generalize e.executor.run f (begun o f entries) { w with token := o.token } = out at *
      obtain ⟨result, c, w'⟩ := out
      have hsession : c.sessionId = o.session := hids.sessionId
      cases result with
      | error fault =>
        dsimp only
        rw [StreamEvent.ofFault_session, hsession]
        exact .failed hflow hcaller
      | ok _ =>
        obtain ⟨⟨s, r⟩, hlast⟩ :=
          Option.isSome_iff_exists.1 (List.getLast?_isSome.2 (hexecuted rfl))
        have hfinished : e.Finished o w f c s r := {
          flow := hflow
          session := hsession
          lastResult := by rw [hbooks.lastResult?, hlast, Option.map_some]
          stepId := (hbooks.ofSteps _ (List.mem_of_getLast? hlast)).stepId
          last := ⟨entries, hcaller, hlast⟩ }
        exact hfinished.serves _

/-- Two runs of the engine come to the same, sessions and times apart. -/
structure AlikeApart (out out' : Except Fault Context × World σ) : Prop where
  result : out.1.map Context.untimed = out'.1.map Context.untimed
  memory : out.2.memory = out'.2.memory
  calls : out.2.calls = out'.2.calls
  emitted : out.2.emitted.map Event.untimed = out'.2.emitted.map Event.untimed

/-- A run in another session and at another time. -/
theorem run_apart (e : Engine σ) (o : Order) (hw : w.TakesEvents) (session : String)
    (now : Moment) :
    AlikeApart (e.run o w) (e.run { o with session } { w with now }) := by
  cases hflow : e.catalog.get? o.flow with
  | none =>
    unfold run require
    rw [hflow]
    exact ⟨rfl, rfl, rfl, rfl⟩
  | some f =>
    cases hcaller : o.callerContext.toEntries with
    | error fault =>
      unfold run require Order.context
      rw [hflow, hcaller]
      exact ⟨rfl, rfl, rfl, rfl⟩
    | ok entries =>
      -- Both runs come to the same as one run in the mirror, which has neither a session nor a
      -- time.
      have hhere := Executor.reflects_run (w := { w with token := o.token }) e.executor f
        e.executor.config.emitThinking (fresh_begun o f entries) hw
      have hthere := Executor.reflects_run (w := { w with token := o.token, now }) e.executor f
        e.executor.config.emitThinking (fresh_begun { o with session } f entries) hw
      have hnoting : e.executor.noting e.executor.config.emitThinking = e.executor := rfl
      rw [hnoting] at hhere hthere
      rw [run_eq hflow hcaller, run_eq (o := { o with session })
        (w := { w with now }) hflow hcaller]
      dsimp only
      generalize e.executor.run f (begun o f entries) { w with token := o.token } = out at hhere ⊢
      generalize e.executor.run f (begun { o with session } f entries) { w with
        token := o.token, now } = out'
        at hthere ⊢
      obtain ⟨told, hemitted, htold⟩ := hhere.emitted
      obtain ⟨told', hemitted', htold'⟩ := hthere.emitted
      have hcontext := hhere.context.trans hthere.context.symm
      exact {
        result := by
          rw [hhere.result.trans hthere.result.symm]
          cases out'.1 with
          | error fault => rfl
          | ok _ => exact congrArg Except.ok hcontext
        memory := hhere.memory.trans hthere.memory.symm
        calls := hhere.calls.trans hthere.calls.symm
        emitted := by
          rw [hemitted, hemitted', List.map_append, List.map_append, htold, htold']
          rfl }

/-- A stream agrees with a run from the same state. It makes the same calls and the same events of
the bus, and tells what the run returns: the fault that ends it; or its context, and before that the
last output as the flow presents it. In another session and at another time a run comes to the
same. -/
theorem stream_agrees_with_run (e : Engine σ) (o : Order) (w : World σ) :
    (e.stream o w).2 = (e.run o w).2 ∧
    (e.catalog.get? o.flow = none →
      e.run o w = (.error (e.notFound o),
        { w with exchange := w.exchange.publish (refusal o (e.notFound o) w.now) }) ∧
        (e.stream o w).1 = ⟨[.ofFields "error" (e.notFound o).report], none⟩) ∧
    (∀ f entries, e.catalog.get? o.flow = some f → o.callerContext.toEntries = .ok entries →
      (∀ fault, (e.run o w).1 = .error fault → (e.stream o w).1 =
        ⟨[startEvent o f, errorEvent o fault], none⟩) ∧
      ∀ c, (e.run o w).1 = .ok c → c.sessionId = o.session ∧
        ∃ s r, (e.executed o w f entries).getLast? = some (s, r) ∧
          (r.output.isNull = true → (e.stream o w).1 = ⟨[startEvent o f, completeEvent c], none⟩) ∧
          ∀ output, r.output.isNull = false → rendering f c r.output = .ok output →
            (e.stream o w).1 = ⟨[startEvent o f, resultEvent s output, completeEvent c], none⟩) ∧
    (w.TakesEvents → ∀ session now, AlikeApart (e.run o w) (e.run { o with session } { w with
      now })) := by
  have hserves := e.serves o w
  refine ⟨?_, ?_, ?_, fun hw session now => e.run_apart o hw session now⟩
  · generalize e.run o w = ran, e.stream o w = streamed at hserves
    cases hserves <;> rfl
  · intro hnone
    unfold run stream require
    rw [hnone]
    exact ⟨rfl, rfl⟩
  · intro f entries hf hcaller
    generalize e.run o w = ran, e.stream o w = streamed at hserves
    cases hserves with
    | unknown hnone _ => cases hnone.symm.trans hf
    | unmade _ hunmade => cases hunmade.symm.trans hcaller
    | failed hflow _ =>
      cases hflow.symm.trans hf
      refine ⟨?_, by rintro c ⟨⟩⟩
      rintro _ ⟨⟩
      rfl
    | silent hfinished hnull =>
      obtain ⟨rfl, hlast⟩ := hfinished.known hf hcaller
      refine ⟨by rintro fault ⟨⟩, ?_⟩
      rintro _ ⟨⟩
      exact ⟨hfinished.session, _, _, hlast, fun _ => rfl, fun output hgiven => by simp [hnull]
        at hgiven⟩
    | told hfinished hgiven hrendering =>
      obtain ⟨rfl, hlast⟩ := hfinished.known hf hcaller
      refine ⟨by rintro fault ⟨⟩, ?_⟩
      rintro _ ⟨⟩
      refine ⟨hfinished.session, _, _, hlast, fun hnull => by simp [hnull] at hgiven, ?_⟩
      intro output _ houtput
      cases hrendering.symm.trans houtput
      rfl
    | unrendered hfinished hgiven hrendering =>
      obtain ⟨rfl, hlast⟩ := hfinished.known hf hcaller
      refine ⟨by rintro fault ⟨⟩, ?_⟩
      rintro _ ⟨⟩
      refine ⟨hfinished.session, _, _, hlast, fun hnull => by simp [hnull] at hgiven, ?_⟩
      intro output _ houtput
      cases hrendering.symm.trans houtput

def soloFlow (spec : OutputSpec) : Flow where
  id := "solo"
  steps := [{ id := "a", action := .synthesize }]
  output := .checked spec

/-- An engine with one flow, whose worker always gives the same output. -/
def solo (spec : OutputSpec) (output : Value) : Engine Unit where
  executor := Executor.lone 3 { outcome := .ok output }
  catalog := [("solo", soloFlow spec)]

def soloOrder : Order where
  flow := "solo"
  query := "q"
  session := "session"

theorem solo_stream_agrees :
    let e := solo {} (.text "found")
    let w : World Unit := { memory := () }
    (e.stream soloOrder w).2 = (e.run soloOrder w).2 ∧ ∃ c s output, (e.run soloOrder w).1 = .ok c ∧
      (e.stream soloOrder w).1 =
        ⟨[startEvent soloOrder (soloFlow {}), resultEvent s output, completeEvent c], none⟩ := by
  intro e w
  obtain ⟨hworld, -, hknown, -⟩ := stream_agrees_with_run e soloOrder w
  have hran : (e.run soloOrder w).1.isOk = true := by decide +kernel
  cases hc : (e.run soloOrder w).1 with
  | error fault =>
    rw [hc] at hran
    cases hran
  | ok c =>
    obtain ⟨-, s, r, hlast, -, hresult⟩ := (hknown (soloFlow {}) [] rfl rfl).2 c hc
    have hgiven : ((e.executed soloOrder w (soloFlow {}) []).getLast?.map fun x =>
      x.2.output.isNull) = some false := by
      decide +kernel
    rw [hlast] at hgiven
    exact ⟨hworld, c, s, r.output, rfl, hresult r.output (Option.some.inj hgiven) rfl⟩

/-- A stream breaks off in two cases. Before its start, where the caller's data cannot be made a
mapping; and after a run that has come to its end, where the last output cannot be presented.
Otherwise it ends with an error or with the context of its run. -/
theorem stream_breaks_off_iff (e : Engine σ) (o : Order) (w : World σ) :
    (∀ fault, (e.stream o w).1.broken = some fault ↔
      (∃ f, e.catalog.get? o.flow = some f ∧ o.callerContext.toEntries = .error fault ∧
        (e.stream o w).1.events = []) ∨
      ∃ f c r, e.catalog.get? o.flow = some f ∧ (e.run o w).1 = .ok c ∧ c.lastResult? = some r ∧
        r.output.isNull = false ∧ rendering f c r.output = .error fault ∧
        (e.stream o w).1.events = [startEvent o f]) ∧
    ((e.stream o w).1.broken = none →
      (e.stream o w).1.events.map StreamEvent.type ∈ [["error"], ["flow-start", "error"],
        ["flow-start", "flow-complete"], ["flow-start", "result", "flow-complete"]]) := by
  have hserves := e.serves o w
  generalize e.run o w = ran, e.stream o w = streamed at hserves ⊢
  cases hserves with
  | unknown hnone _ =>
    refine ⟨fun fault => ⟨by rintro ⟨⟩, ?_⟩, fun _ => .head _⟩
    rintro (⟨f, hf, -⟩ | ⟨f, c, r, hf, -⟩) <;> cases hnone.symm.trans hf
  | unmade hflow hunmade =>
    refine ⟨fun fault => ⟨?_, ?_⟩, by rintro ⟨⟩⟩
    · rintro ⟨⟩
      exact .inl ⟨_, hflow, hunmade, rfl⟩
    · rintro (⟨f, -, hfault, -⟩ | ⟨f, c, r, -, hran, -⟩)
      · cases hunmade.symm.trans hfault
        rfl
      · cases hran
  | failed hflow hmade =>
    refine ⟨fun fault => ⟨by rintro ⟨⟩, ?_⟩, fun _ => .tail _ (.head _)⟩
    rintro (⟨f, -, hunmade, -⟩ | ⟨f, c, r, -, hran, -⟩)
    · cases hmade.symm.trans hunmade
    · cases hran
  | silent hfinished hnull =>
    refine ⟨fun fault => ⟨by rintro ⟨⟩, ?_⟩, fun _ => .tail _ (.tail _ (.head _))⟩
    rintro (⟨f, -, hunmade, -⟩ | ⟨f, c, r, -, ⟨⟩, hlast, hgiven, -⟩)
    · exact absurd hunmade hfinished.made
    · cases hfinished.lastResult.symm.trans hlast
      cases hnull.symm.trans hgiven
  | told hfinished _ hrendering =>
    refine ⟨fun fault => ⟨by rintro ⟨⟩, ?_⟩, fun _ => .tail _ (.tail _ (.tail _ (.head _)))⟩
    rintro (⟨f, -, hunmade, -⟩ | ⟨f, c, r, hf, ⟨⟩, hlast, -, hfault, -⟩)
    · exact absurd hunmade hfinished.made
    · cases hfinished.flow.symm.trans hf
      cases hfinished.lastResult.symm.trans hlast
      cases hrendering.symm.trans hfault
  | unrendered hfinished hgiven hrendering =>
    refine ⟨fun fault => ⟨?_, ?_⟩, by rintro ⟨⟩⟩
    · rintro ⟨⟩
      exact .inr ⟨_, _, _, hfinished.flow, rfl, hfinished.lastResult, hgiven, hrendering, rfl⟩
    · rintro (⟨f, -, hunmade, -⟩ | ⟨f, c, r, hf, ⟨⟩, hlast, -, hfault, -⟩)
      · exact absurd hunmade hfinished.made
      · cases hfinished.flow.symm.trans hf
        cases hfinished.lastResult.symm.trans hlast
        cases hrendering.symm.trans hfault
        rfl

/-- A stream whose last output is presented, and one whose last output cannot be. -/
theorem solo_streams_end :
    let w : World Unit := { memory := () }
    let told := ((solo {} (.text "found")).stream soloOrder w).1
    let e := solo { format := "prose" } (.record [("results", .int 5)])
    told.events.map StreamEvent.type ∈ [["error"], ["flow-start", "error"],
      ["flow-start", "flow-complete"], ["flow-start", "result", "flow-complete"]] ∧
    ∃ (fault : Fault) (f : Flow) (c : Context) (r : StepResult),
      (e.stream soloOrder w).1.broken = some fault ∧ (e.run soloOrder w).1 = .ok c ∧
      rendering f c r.output = .error fault ∧ (e.stream soloOrder w).1.events =
        [startEvent soloOrder f] := by
  intro w told e
  have hunbroken : told.broken = none := by
    apply Option.isNone_iff_eq_none.1
    decide +kernel
  have hbroken : (e.stream soloOrder w).1.broken.isSome = true := by decide +kernel
  obtain ⟨fault, hfault⟩ := Option.isSome_iff_exists.1 hbroken
  refine ⟨(stream_breaks_off_iff _ soloOrder w).2 hunbroken, ?_⟩
  rcases ((stream_breaks_off_iff e soloOrder w).1 fault).1 hfault with
    ⟨f, -, hunmade, -⟩ | ⟨f, c, r, -, hran, -, -, hrendering, hevents⟩
  · cases hunmade
  · exact ⟨fault, f, c, r, hfault, hran, hrendering, hevents⟩

theorem not_every_stream_ends_well :
    ¬∀ (e : Engine Unit) (o : Order) (w : World Unit), o.callerContext = .null →
    (e.stream o w).1.broken = none := by
  intro h
  let e := solo { format := "prose" } (.record [("results", .int 5)])
  have hbroken : (e.stream soloOrder { memory := () }).1.broken.isSome = true := by decide +kernel
  rw [h e soloOrder { memory := () } rfl] at hbroken
  cases hbroken

end Engine
end StepFlow
