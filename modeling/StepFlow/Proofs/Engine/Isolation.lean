import StepFlow.Proofs.Engine.Session

/-!
# Isolated runs

Runs of one engine, whose workers answer by what they are asked and nothing else and leave the
configurations of the steps alone, do not disturb each other. They leave the engine, its catalog and
the subscriptions as they were.
-/
namespace StepFlow
open Engine (Impulse Order Outcome Stage)

namespace Engine
variable {σ : Type}

theorem attempt_withToken (e : Engine σ) (o : Order) (w : World σ) (token : Option Token) :
    let out := e.attempt o { w with token }
    out.1 = (e.attempt o w).1 ∧ out.2.calls = (e.attempt o w).2.calls ∧
    out.2.emitted = (e.attempt o w).2.emitted := by
  unfold attempt accept require
  cases e.catalog.get? o.flow with
  | none => exact ⟨rfl, rfl, rfl⟩
  | some f =>
    dsimp only
    cases o.context f <;> exact ⟨rfl, rfl, rfl⟩

theorem Stage.ahead_untimed (stage : Stage) (maxSteps : Int) :
    stage.untimed.ahead maxSteps = stage.ahead maxSteps := by
  cases stage <;> rfl

theorem countP_untimed (impulses : List Impulse) :
    (impulses.map Impulse.untimed).countP Impulse.isGo = impulses.countP Impulse.isGo := by
  rw [List.countP_map]
  congr 1
  funext impulse
  cases impulse <;> rfl

theorem untimed_of_isGo {impulse : Impulse} (h : impulse.isGo = true) :
    impulse.untimed = .go .epoch := by
  cases impulse with
  | go now => rfl
  | cancel reason => cases h

end Engine

/-- Two runs are at the same point, sessions and times apart: they stand at the same stage with the
same token, and have made the same calls and emitted the same events. -/
structure Running.SameAs (r r' : Running) : Prop where
  stage : r.stage.untimed = r'.stage.untimed
  token : r.token = r'.token
  calls : r.calls = r'.calls
  emitted : r.emitted.map Event.untimed = r'.emitted.map Event.untimed

namespace Session
variable {σ : Type} {s s' : Session σ} {reading : List (String × Value) → List (String × Value)}
  {r r' : Running} {run₀ : Stage × World σ}

theorem Shows.sameAs (h : s.Shows reading r run₀) (h' : s'.Shows reading r' run₀) :
    r.SameAs r' where
  stage := h.stage.symm.trans h'.stage
  token := h.kin.token.symm.trans h'.kin.token
  calls := h.kin.calls.symm.trans h'.kin.calls
  emitted := h.kin.emitted.symm.trans h'.kin.emitted

theorem Shows.finished_of_goes {e : Engine σ} {bus : Bus} {memory₀ : σ} {o : Order}
    {impulses : List Impulse} (h : s.Shows reading r (e.mirror bus memory₀ o impulses))
    (hgoes : e.executor.config.maxSteps.toNat - 1 + 4 ≤ impulses.countP Impulse.isGo) :
    ∃ outcome, r.stage = .finished outcome := by
  have hahead := e.ahead_urged o.unnamed (impulses.map Impulse.untimed)
    (.waiting, { memory := memory₀, token := o.token, exchange := { bus } })
  rw [Engine.countP_untimed] at hahead
  have hstage : (e.mirror bus memory₀ o impulses).1.ahead e.executor.config.maxSteps ≤
      e.executor.config.maxSteps.toNat - 1 + 4 - impulses.countP Impulse.isGo := hahead
  rw [h.stage, Stage.ahead_untimed] at hstage
  have hdone : r.stage.ahead e.executor.config.maxSteps = 0 := by omega
  exact Stage.finished_of_ahead hdone

/-- A run that nobody cancels from outside comes to what its order comes to at once. -/
theorem Shows.outcome_eq {e : Engine σ} (hfit : e.Steady) {bus : Bus} {memory memory₀ : σ}
    (hlook : e.executor.look memory = e.executor.look memory₀) {o : Order} {impulses : List Impulse}
    (h : s.Shows reading r (e.mirror bus memory₀ o impulses))
    (hgo : ∀ impulse ∈ impulses, impulse.isGo = true) {outcome : Outcome}
    (hfinished : r.stage = .finished outcome) (session : String) (now : Moment) :
    let alone := e.attempt { o with session } { memory, exchange := { bus }, now }
    outcome.untimed = alone.1.untimed ∧ r.calls = alone.2.calls ∧
      r.emitted.map Event.untimed = alone.2.emitted.map Event.untimed := by
  have huntimed : ∀ impulse ∈ impulses.map Impulse.untimed, impulse = .go .epoch := by
    intro impulse hmem
    obtain ⟨before, hbefore, rfl⟩ := List.mem_map.1 hmem
    exact Engine.untimed_of_isGo (hgo before hbefore)
  let bare : World σ := { memory := memory₀, token := o.token, exchange := { bus } }
  have hmirror : e.attempt o.unnamed bare = (outcome.untimed,
    (e.mirror bus memory₀ o impulses).2) := by
    have hconclude : e.conclude o.unnamed (e.mirror bus memory₀ o impulses).1
        (e.mirror bus memory₀ o impulses).2 =
        e.attempt o.unnamed bare := e.conclude_urged o.unnamed rfl huntimed
    have hstage : (e.mirror bus memory₀ o impulses).1 = .finished outcome.untimed :=
      h.stage.trans (hfinished ▸ rfl)
    rw [hstage] at hconclude
    exact hconclude.symm
  have hkin : World.Kin e.executor.look (e.executor.look memory₀)
      { memory, token := o.token, exchange := { bus }, now } bare :=
        ⟨rfl, rfl, rfl, rfl, rfl, hlook, rfl⟩
  obtain ⟨houtcome, hworld⟩ := Engine.attempt_kin hfit { o with session } hkin
  rw [show Order.unnamed { o with session } = o.unnamed from rfl, hmirror] at houtcome hworld
  obtain ⟨hsame, hcalls, hemitted⟩ :=
    e.attempt_withToken { o with session } { memory, exchange := { bus }, now } o.token
  dsimp only at hsame hcalls hemitted houtcome
  rw [hsame] at houtcome
  have hcalls' := hworld.calls
  have hemitted' := hworld.emitted
  rw [hcalls] at hcalls'
  rw [hemitted] at hemitted'
  exact ⟨houtcome, h.kin.calls.symm.trans hcalls', h.kin.emitted.symm.trans hemitted'⟩

/-- Runs of one engine are isolated whose workers do not depend on what they remember and leave the
configurations of the steps alone, in whatever order they take their turns. The engine and the
subscriptions stay as they are, and so does whatever the catalog reads. Each run stands, sessions
and times apart, where it would stand after the same turns and cancellations as the only one. It is
finished after a bounded number of turns, and if it was not cancelled from outside it has made the
same calls, come to the same result and left the same context as at once on a fresh copy of the
engine. -/
theorem runs_are_isolated {e : Engine σ} (hworkers : e.Steady) (memory : σ) (x : Exchange)
    (orders : List Order) (acts : List Act) :
    let s := (start e memory x orders).play acts
    s.engine = e ∧ s.reading = e.executor.look memory ∧ s.exchange.bus = x.bus ∧
    ∀ i o, orders[i]? = some o → ∃ r, s.runs[i]? = some r ∧ r.order = o ∧
      let impulses := acts.filterMap (Act.for? i)
      (∀ session memory', e.executor.look memory' = e.executor.look memory → ∃ r',
        ((start e memory' { bus := x.bus } [{ o with session }]).play
          (impulses.map (Act.urge 0))).runs[0]? = some r' ∧
          r.SameAs r') ∧
      (e.executor.config.maxSteps.toNat - 1 + 4 ≤ impulses.countP Impulse.isGo →
        ∃ outcome, r.stage = .finished outcome) ∧
      ∀ outcome, r.stage = .finished outcome → (∀ impulse ∈ impulses, impulse.isGo = true) →
        ∀ session memory' now, e.executor.look memory' = e.executor.look memory →
          let fresh : World σ := { memory := memory', exchange := { bus := x.bus }, now }
          let alone := e.attempt { o with session } fresh
          e.run { o with session } fresh = (alone.1.returned, alone.2) ∧
            outcome.untimed = alone.1.untimed ∧
            r.calls = alone.2.calls ∧ r.emitted.map Event.untimed =
              alone.2.emitted.map Event.untimed := by
  intro s
  obtain ⟨hengine, hbus, hreflects⟩ :=
    (reflects_start e (rfl : e.executor.look memory = _) x orders).play hworkers acts
  have hreading : s.reading = e.executor.look memory := by
    rw [hreflects.reads, hengine]
    rfl
  refine ⟨hengine, hreading, hbus, fun i o ho => ?_⟩
  obtain ⟨r, hr, horder, hshows⟩ := shows_play hworkers (rfl : e.executor.look memory = _) x ho acts
  refine ⟨r, hr, horder, fun session memory' hlook => ?_, hshows.finished_of_goes, ?_⟩
  · have hown : ((acts.filterMap (Act.for? i)).map (Act.urge 0)).filterMap (Act.for? 0) =
        acts.filterMap (Act.for? i) := by
      rw [List.filterMap_map, show Act.for? 0 ∘ Act.urge 0 = some from rfl, List.filterMap_some]
    have ho' : [{ o with session }][0]? = some { o with session } := rfl
    obtain ⟨r', hr', -, hshows'⟩ := shows_play hworkers hlook { bus := x.bus } ho'
      ((acts.filterMap (Act.for? i)).map (Act.urge 0))
    rw [hown] at hshows'
    exact ⟨r', hr', hshows.sameAs hshows'⟩
  · intro outcome hfinished hgo session memory' now hlook
    exact ⟨e.run_eq_attempt _ _, hshows.outcome_eq hworkers hlook hgo hfinished session now⟩

/-- An executor whose only worker counts its calls, and cancels whoever asks it. -/
def cancelling : Executor Nat where
  config := { maxSteps := 3 }
  workers := [("default", ⟨"default", "FunctionWorker", .function ActionKind.all .inline fun _ n =>
    ({ cancel := some (some "stop"), outcome := .ok (.text "found") }, n + 1)⟩)]

theorem Worker.eq_of_answering_function {name type : String} {actions : List ActionKind}
    {manner : Manner} {answer other : Answering σ} {action : ActionKind}
    (h : (⟨name, type, .function actions manner answer⟩ : Worker σ).answering action = .ok other) :
    other = answer := by
  unfold Worker.answering Capability.answering? at h
  dsimp only at h
  split at h
  · next hfound =>
    split at hfound <;> cases hfound
    exact (Except.ok.inj h).symm
  · cases h

theorem steady_cancelling : cancelling.Employs (Worker.Steady cancelling.look) := by
  refine Executor.employs_of_forall fun entry hentry => ?_
  obtain rfl := List.mem_singleton.1 hentry
  constructor
  · intro action answer hanswer
    rw [Worker.eq_of_answering_function hanswer]
    exact fun _ _ _ => rfl
  · intro action answer hanswer
    rw [Worker.eq_of_answering_function hanswer]
    exact fun _ _ => rfl

/-- Two runs take turns, and their worker cancels those that have a token: the run without one goes
to its end. -/
theorem neighbour_is_not_cancelled :
    let e : Engine Nat := {
      executor := cancelling
      catalog := [("single", { id := "single", steps := [{ id := "a", action := .synthesize }] })] }
    let orders : List Order :=
      [{ flow := "single", query := "x", session := "first", token := some {} },
        { flow := "single", query := "y", session := "second" }]
    let acts := (List.replicate 6 [Act.urge 0 (.go .epoch), Act.urge 1 (.go .epoch)]).flatten
    let s := (start e 0 {} orders).play acts
    e.Steady ∧ s.reading = e.executor.look 0 ∧
    ∃ r r' outcome outcome', s.runs[0]? = some r ∧ s.runs[1]? = some r' ∧
      r.stage = .finished outcome ∧ r'.stage = .finished outcome' ∧
      outcome.context?.map Context.state = some .cancelled ∧
      outcome'.context?.map Context.state = some .completed ∧
      r.calls.length = 1 ∧ r'.calls.length = 1 := by
  intro e orders acts s
  obtain ⟨-, hreading, -, hruns⟩ := runs_are_isolated (e := e) steady_cancelling 0 {} orders acts
  obtain ⟨r, hr, -, -, hfinished, halone⟩ := hruns 0 _ rfl
  obtain ⟨r', hr', -, -, hfinished', halone'⟩ := hruns 1 _ rfl
  obtain ⟨outcome, hstage⟩ := hfinished (by decide)
  obtain ⟨outcome', hstage'⟩ := hfinished' (by decide)
  obtain ⟨-, houtcome, hcalls, -⟩ := halone outcome hstage (by decide) "first" 0 .epoch rfl
  obtain ⟨-, houtcome', hcalls', -⟩ := halone' outcome' hstage' (by decide) "second" 0 .epoch rfl
  refine ⟨steady_cancelling, hreading, r, r', outcome, outcome', hr, hr',
    hstage, hstage', ?_, ?_, ?_, ?_⟩
  · rw [← outcome.state_untimed, houtcome]
    decide +kernel
  · rw [← outcome'.state_untimed, houtcome']
    decide +kernel
  · rw [hcalls]
    decide +kernel
  · rw [hcalls']
    decide +kernel

def stained : Flow where
  id := "single"
  steps := [{ id := "a", action := .synthesize, config := [("filters", .list [.text "base"])] }]

/-- An engine whose only worker gives the same reply to everything, and adds a note of it to every
list in the configuration of the step. -/
def staining : Engine Nat where
  executor := {
    config := { maxSteps := 3 }
    workers :=
      [("default", ⟨"default", "FunctionWorker", .function ActionKind.all .inline fun _ n =>
      ({ outcome := .ok (.text "found") }, n + 1)⟩)]
    look n config := config.map fun
      | (key, .list notes) => (key, .list (notes ++ List.replicate n (.text "seen")))
      | entry => entry }
  catalog := [("single", stained)]

theorem memoryless_staining : staining.executor.Employs Worker.Memoryless := by
  refine Executor.employs_of_forall fun entry hentry => ?_
  obtain rfl := List.mem_singleton.1 hentry
  intro action answer hanswer
  rw [Worker.eq_of_answering_function hanswer]
  exact fun _ _ _ => rfl

def stain : Order := { flow := "single", query := "x", session := "session" }

def stainings : List Act :=
  List.replicate 6 (Act.urge 0 (.go .epoch)) ++ List.replicate 6 (Act.urge 1 (.go .epoch))

def notesIn (call : Call) : List Nat := call.invocation.config.map fun
  | (_, .list notes) => notes.length
  | _ => 0

/-- Not all runs are isolated. A worker may change what it is asked in the next run, although it
answers everything alike; and a run on the context of another one is refused. -/
theorem not_every_run_is_isolated :
    (¬∀ (e : Engine Nat) (orders : List Order) (acts : List Act) (i : Nat) (o : Order)
      (r : Running) (outcome : Outcome),
      e.executor.Employs Worker.Memoryless → orders[i]? = some o →
        ((start e 0 {} orders).play acts).runs[i]? = some r → r.stage = .finished outcome →
          (∀ impulse ∈ acts.filterMap (Act.for? i), impulse.isGo = true) →
            r.calls = (e.attempt o { memory := 0 }).2.calls) ∧
    ¬∀ (e : Engine Nat) (f : Flow) (c : Context), e.executor.Employs Worker.Memoryless → c.Fresh →
      let first := e.runOn f none c { memory := 0 }
      (e.runOn f none first.2.1 first.2.2).1 = first.1 := by
  constructor
  · intro h
    have hsecond : (((start staining 0 {} [stain, stain]).play stainings).runs[1]?).map
        (fun r => (r.stage.ahead 3, r.calls.map notesIn)) = some (0, [[2]]) := by decide +kernel
    have halone : (staining.attempt stain { memory := 0 }).2.calls.map notesIn = [[1]] := by
      decide +kernel
    obtain ⟨r, hr, hstands⟩ := Option.map_eq_some_iff.1 hsecond
    obtain ⟨hahead, hcalls⟩ := Prod.ext_iff.1 hstands
    obtain ⟨outcome, hfinished⟩ := Stage.finished_of_ahead hahead
    have hsame := h staining _ _ 1 stain r outcome memoryless_staining rfl hr hfinished (by decide)
    rw [← hsame] at halone
    cases hcalls.symm.trans halone
  · intro h
    have hsame := h staining stained (.new []) memoryless_staining (Context.fresh_new [])
    have hagain : let first := staining.runOn stained none (.new []) { memory := 0 }
        (first.1.isOk, (staining.runOn stained none first.2.1 first.2.2).1.isOk) =
        (true, false) := by decide +kernel
    dsimp only at hsame hagain
    generalize staining.runOn stained none (.new []) { memory := 0 } = first at hsame hagain
    obtain ⟨hfirst, hrefused⟩ := Prod.mk.inj hagain
    rw [hsame, hfirst] at hrefused
    cases hrefused

end Session
end StepFlow
