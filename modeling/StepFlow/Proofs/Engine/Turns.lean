import StepFlow.Proofs.Engine.Stream
import StepFlow.Proofs.Run.Invariance
import StepFlow.Proofs.Run.Untimed

/-!
# Runs turn by turn

A run that is not alone goes on by turns: it begins, takes its steps, comes to its end, and closes
its emitter. What its turns come to one after the other is what it comes to at once, and their
number is bounded.
-/
namespace StepFlow
namespace Engine

/-- What an order comes to: it is refused before there is a context, or its run ends with a result
and a context. -/
inductive Outcome where
  | refused (fault : Fault)
  | ended (result : Except Fault Unit) (c : Context)

def Outcome.returned : Outcome → Except Fault Context
  | refused fault => .error fault
  | ended result c => result.map fun _ => c

def Outcome.context? : Outcome → Option Context
  | refused _ => none
  | ended _ c => some c

def Outcome.untimed : Outcome → Outcome
  | refused fault => refused fault
  | ended result c => ended result c.untimed

theorem Outcome.state_untimed (outcome : Outcome) :
    outcome.untimed.context?.map Context.state = outcome.context?.map Context.state := by
  cases outcome <;> rfl

variable {σ : Type}

def accept (e : Engine σ) (o : Order) (w : World σ) : Except Fault (Flow × Context) × World σ :=
  match e.require o.flow w with
  | (.error fault, w) => (.error fault, w)
  | (.ok f, w) => ((o.context f).map fun c => (f, c), w)

/-- Runs a flow of the catalog to its end, and keeps the context of a run that fails. -/
def attempt (e : Engine σ) (o : Order) (w : World σ) : Outcome × World σ :=
  match e.accept o w with
  | (.error fault, w) => (.refused fault, w)
  | (.ok (f, c), w) =>
    let (result, c, w) := e.runOn f o.token c w
    (.ended result c, w)

theorem run_eq_attempt (e : Engine σ) (o : Order) (w : World σ) :
    e.run o w = ((e.attempt o w).1.returned, (e.attempt o w).2) := by
  unfold run attempt accept
  cases e.require o.flow w with
  | mk found w' =>
    cases found with
    | error fault => rfl
    | ok f =>
      dsimp only
      cases o.context f with
      | error fault => rfl
      | ok c =>
        dsimp only [Except.map]
        generalize e.runOn f o.token c w' = ran
        obtain ⟨result, c', w''⟩ := ran
        cases result <;> rfl

inductive Stage where
  | waiting
  | walking (f : Flow) (left : Nat) (current : String) (c : Context)
  /-- Its walk is over, and its end is to be announced. -/
  | arriving (result : Except Fault Unit) (c : Context)
  /-- Its emitter is to be closed. -/
  | leaving (result : Except Fault Unit) (c : Context)
  | finished (outcome : Outcome)

namespace Stage

def after (x : Executor σ) (f : Flow) (left : Nat) (c : Context) : Advance → Stage
  | .stop fault => arriving (.error fault) c
  | .complete => arriving (.ok ()) c
  | .next id =>
    match left with
    | 0 => arriving (.error (.stepLimit f.id x.config.maxSteps id)) c
    | left + 1 => walking f left id c

def untimed : Stage → Stage
  | waiting => waiting
  | walking f left current c => walking f left current c.untimed
  | arriving result c => arriving result c.untimed
  | leaving result c => leaving result c.untimed
  | finished outcome => finished outcome.untimed

def isOpen : Stage → Bool
  | waiting | finished _ => false
  | _ => true

def Endless : Stage → Prop
  | walking _ _ _ c | arriving _ c => c.endTime = none
  | _ => True

def ahead (maxSteps : Int) : Stage → Nat
  | waiting => maxSteps.toNat - 1 + 4
  | walking _ left _ _ => left + 3
  | arriving .. => 2
  | leaving .. => 1
  | finished _ => 0

end Stage

def turn (e : Engine σ) (o : Order) : Stage → World σ → Stage × World σ
  | .waiting, w =>
    match e.accept o w with
    | (.error fault, w) => (.finished (.refused fault), w)
    | (.ok (f, c), w) =>
      match Executor.depart f c w.openEmitter with
      | (.error fault, c, w) => (.leaving (.error fault) c, w)
      | (.ok start, c, w) => (.walking f (e.executor.config.maxSteps.toNat - 1) start c, w)
  | .walking f left current c, w =>
    let (advance, c, w) := e.executor.advance f current c w
    (.after e.executor f left c advance, w)
  | .arriving result c, w =>
    let (result, c, w) := Executor.close result c w
    (.leaving result c, w)
  | .leaving result c, w => (.finished (.ended result c), { w.closeEmitter with token := none })
  | .finished outcome, w => (.finished outcome, w)

def conclude (e : Engine σ) (o : Order) : Stage → World σ → Outcome × World σ
  | .waiting, w => e.attempt { o with token := w.token } w
  | .walking f left current c, w =>
    let (result, c, w) := e.executor.walk f left current c w
    let (result, c, w) := Executor.close result c w
    (.ended result c, { w.closeEmitter with token := none })
  | .arriving result c, w =>
    let (result, c, w) := Executor.close result c w
    (.ended result c, { w.closeEmitter with token := none })
  | .leaving result c, w => (.ended result c, { w.closeEmitter with token := none })
  | .finished outcome, w => (outcome, w)

/-- What befalls a run between two of its steps: its next turn comes, or it is cancelled. -/
inductive Impulse where
  | go (now : Moment)
  | cancel (reason : Option String)

namespace Impulse

def untimed : Impulse → Impulse
  | go _ => go .epoch
  | cancel reason => cancel reason

def isGo : Impulse → Bool
  | go _ => true
  | cancel _ => false

end Impulse

def urge (e : Engine σ) (o : Order) (run : Stage × World σ) : Impulse → Stage × World σ
  | .go now => e.turn o run.1 { run.2 with now }
  | .cancel reason => (run.1, run.2.cancel reason)

theorem conclude_after (e : Engine σ) (o : Order) (f : Flow) (left : Nat) (current : String)
    (c : Context) (w : World σ) :
    let advanced := e.executor.advance f current c w
    e.conclude o (.after e.executor f left advanced.2.1 advanced.1) advanced.2.2 =
      e.conclude o (.walking f left current c) w := by
  have hwalking : e.conclude o (.walking f left current c) w =
      let (result, c, w) := e.executor.walk f left current c w
      let (result, c, w) := Executor.close result c w
      (.ended result c, { w.closeEmitter with token := none }) := rfl
  rw [hwalking, Executor.walk.eq_def]
  dsimp only
  generalize e.executor.advance f current c w = advanced
  obtain ⟨advance, c', w'⟩ := advanced
  cases advance with
  | stop fault => rfl
  | complete => rfl
  | next id => cases left <;> rfl

/-- What is done in a turn is no longer ahead. -/
theorem conclude_turn (e : Engine σ) (o : Order) (stage : Stage) (w : World σ) :
    e.conclude o (e.turn o stage w).1 (e.turn o stage w).2 = e.conclude o stage w := by
  cases stage with
  | waiting =>
    have htoken : (e.accept o w).2.token = w.token := by
      unfold accept require
      cases e.catalog.get? o.flow <;> rfl
    have hattempt : e.conclude o .waiting w = match e.accept o w with
        | (.error fault, w) => (.refused fault, w)
        | (.ok (f, c), w') =>
          let (result, c, w) := e.runOn f w.token c w'
          (.ended result c, w) := rfl
    rw [hattempt, turn.eq_def]
    dsimp only
    generalize e.accept o w = accepted at htoken
    obtain ⟨begun, w'⟩ := accepted
    cases begun with
    | error fault => rfl
    | ok begun =>
      dsimp only at htoken ⊢
      unfold runOn Executor.run Executor.drive
      rw [← htoken]
      dsimp only
      generalize Executor.depart begun.1 begun.2 w'.openEmitter = departed
      obtain ⟨result, c, w''⟩ := departed
      cases result <;> rfl
  | walking f left current c => exact conclude_after e o f left current c w
  | arriving result c => rfl
  | leaving result c => rfl
  | finished outcome => rfl

theorem ahead_turn (e : Engine σ) (o : Order) (stage : Stage) (w : World σ) :
    (e.turn o stage w).1.ahead e.executor.config.maxSteps ≤
    stage.ahead e.executor.config.maxSteps - 1 := by
  cases stage with
  | waiting =>
    rw [turn.eq_def]
    dsimp only
    generalize e.accept o w = accepted
    obtain ⟨begun, w'⟩ := accepted
    cases begun with
    | error fault => exact Nat.zero_le _
    | ok begun =>
      dsimp only
      generalize Executor.depart begun.1 begun.2 w'.openEmitter = departed
      obtain ⟨result, c, w''⟩ := departed
      cases result with
      | error fault => exact Nat.le_add_left 1 _
      | ok start => exact Nat.le_refl _
  | walking f left current c =>
    rw [turn.eq_def]
    dsimp only
    generalize e.executor.advance f current c w = advanced
    obtain ⟨advance, c', w'⟩ := advanced
    cases advance with
    | stop fault => exact Nat.le_add_left 2 left
    | complete => exact Nat.le_add_left 2 left
    | next id =>
      cases left with
      | zero => exact Nat.le_refl 2
      | succ left => exact Nat.le_refl _
  | arriving result c => exact Nat.le_refl 1
  | leaving result c => exact Nat.le_refl 0
  | finished outcome => exact Nat.le_refl 0

theorem Stage.finished_of_ahead {stage : Stage} {maxSteps : Int} (h : stage.ahead maxSteps = 0) :
    ∃ outcome, stage = finished outcome := by
  cases stage with
  | finished outcome => exact ⟨outcome, rfl⟩
  | _ => cases h

theorem stable_now (now : Moment) : World.Stable (σ := σ) fun w => w.now = now where
  emit w e _ h := by
    unfold World.emit
    split
    · split <;> exact h
    · exact h
  settle _ h := h
  enter _ h := h
  leave _ h := h
  turn _ _ _ _ _ h := h

theorem now_turn (e : Engine σ) (o : Order) (stage : Stage) (w : World σ) :
    (e.turn o stage w).2.now = w.now := by
  cases stage with
  | waiting =>
    have haccepted : (e.accept o w).2.now = w.now := by
      unfold accept require
      cases e.catalog.get? o.flow <;> rfl
    rw [turn.eq_def]
    dsimp only
    generalize e.accept o w = accepted at haccepted
    obtain ⟨begun, w'⟩ := accepted
    cases begun with
    | error fault => exact haccepted
    | ok begun =>
      have hdeparted := (stable_now w.now).sustained.depart begun.1 begun.2
        (w := w'.openEmitter) haccepted
      dsimp only
      generalize Executor.depart begun.1 begun.2 w'.openEmitter = departed at hdeparted
      obtain ⟨result, c, w''⟩ := departed
      cases result <;> exact hdeparted
  | walking f left current c =>
    exact (stable_now w.now).sustained.advance e.executor f current c rfl
  | arriving result c => exact (stable_now w.now).sustained.close result c rfl
  | leaving result c => rfl
  | finished outcome => rfl

/-- With nothing but its turns, at one moment, a run comes to what it comes to at once. -/
theorem conclude_urged (e : Engine σ) (o : Order) {impulses : List Impulse} {run : Stage × World σ}
    {now : Moment} (hnow : run.2.now = now) (hgo : ∀ impulse ∈ impulses, impulse = .go now) :
    let later := impulses.foldl (e.urge o) run
    e.conclude o later.1 later.2 = e.conclude o run.1 run.2 := by
  induction impulses generalizing run with
  | nil => rfl
  | cons impulse rest ih =>
    obtain ⟨hfirst, hrest⟩ := List.forall_mem_cons.1 hgo
    have hurged : e.urge o run impulse = e.turn o run.1 run.2 := by
      rw [hfirst, ← hnow]
      rfl
    rw [List.foldl_cons, hurged]
    exact (ih ((now_turn e o run.1 run.2).trans hnow) hrest).trans (conclude_turn e o run.1 run.2)

theorem ahead_urged (e : Engine σ) (o : Order) (impulses : List Impulse) (run : Stage × World σ) :
    (impulses.foldl (e.urge o) run).1.ahead e.executor.config.maxSteps ≤
      run.1.ahead e.executor.config.maxSteps - impulses.countP Impulse.isGo := by
  induction impulses generalizing run with
  | nil => exact Nat.le_refl _
  | cons impulse rest ih =>
    have hrest := ih (e.urge o run impulse)
    rw [List.foldl_cons, List.countP_cons]
    cases impulse with
    | go now =>
      have hturn : (e.urge o run (.go now)).1.ahead e.executor.config.maxSteps ≤
          run.1.ahead e.executor.config.maxSteps - 1 := ahead_turn e o run.1 { run.2 with now }
      have hcount : (if Impulse.isGo (.go now) then 1 else 0) = 1 := rfl
      rw [hcount]
      omega
    | cancel reason => exact hrest

end Engine
end StepFlow
