import StepFlow.Proofs.Run.Inputs
import StepFlow.Proofs.Run.Untimed

/-!
# Aligned worlds

A run goes the same way in two worlds if everything that it does to both of them keeps them aligned:
if it is told the same in both whether events and notes are taken, if its workers answer the same,
if configurations read the same, and if its token is the same. In the second of the worlds no time
passes, and the run there has no session.
-/
namespace StepFlow

/-- The circumstances of the same job without its session, and with the notes on or off. -/
def Circumstances.mirrored (thinking : Bool) (c : Circumstances) : Circumstances :=
  { c with sessionId := "", emitThinking := thinking }

namespace World
variable {σ : Type}

/-- Something comes out the same in two worlds, which stay in a relation. -/
structure Agrees {α : Type} (R : World σ → World σ → Prop) (out out₀ : α × World σ) : Prop where
  result : out₀.1 = out.1
  world : R out.2 out₀.2

theorem Agrees.exists {α : Type} {R : World σ → World σ → Prop} {out out₀ : α × World σ}
    (h : Agrees R out out₀) :
    ∃ w₀', out₀ = (out.1, w₀') ∧ R out.2 w₀' := ⟨out₀.2, Prod.ext h.result rfl, h.world⟩

/-- A relation between worlds in which a run does the same, with the notes on or off in each of
them, if its workers are fit for it. -/
structure Alignment (thinking thinking₀ : Bool)
    (look : σ → List (String × Value) → List (String × Value)) (Fit : Worker σ → Prop)
    (R : World σ → World σ → Prop) : Prop where
  now : ∀ {w w₀}, R w w₀ → w₀.now = .epoch
  token : ∀ {w w₀}, R w w₀ → w₀.token = w.token
  look : ∀ {w w₀}, R w w₀ → look w₀.memory = look w.memory
  emit : ∀ {w w₀}, R w w₀ → ∀ e, e.kind ≠ .thinking → Agrees R (w.emit e) (w₀.emit e.untimed)
  think : ∀ {w w₀}, R w w₀ → ∀ c : Circumstances, c.emitThinking = thinking →
    ∀ worker kind content confidence,
    Agrees R (w.think c worker kind content confidence)
      (w₀.think (c.mirrored thinking₀) worker kind content confidence)
  settle : ∀ {w w₀}, R w w₀ → R w.settle w₀.settle
  withToken : ∀ {w w₀}, R w w₀ → ∀ token, R { w with token } { w₀ with token }
  withOverdue : ∀ {w w₀}, R w w₀ → ∀ overdue, R { w with overdue } { w₀ with overdue }
  called : ∀ {w w₀}, R w w₀ → ∀ {worker : Worker σ} {action answer}, Fit worker →
    worker.answering action = .ok answer → ∀ invocation,
      (answer invocation w₀.memory).1 = (answer invocation w.memory).1 ∧
      R { w with memory := (answer invocation w.memory).2,
                 calls := w.calls ++ [⟨worker.name, invocation, (answer invocation w.memory).1⟩] }
        { w₀ with memory := (answer invocation w₀.memory).2,
                  calls := w₀.calls ++ [⟨worker.name, invocation, (answer invocation w.memory).1⟩] }

/-- Worlds in the middle of the same job, whose deadline has passed in both of them or in
neither. -/
structure AtWork (R : World σ → World σ → Prop) (w w₀ : World σ) : Prop where
  world : R w w₀
  overdue : w₀.overdue = w.overdue

namespace Alignment
variable {thinking thinking₀ : Bool} {look : σ → List (String × Value) → List (String × Value)}
  {Fit : Worker σ → Prop} {R : World σ → World σ → Prop} {w w₀ : World σ}

theorem atWork (hR : Alignment thinking thinking₀ look Fit R) :
    Alignment thinking thinking₀ look Fit (AtWork R) where
  now h := hR.now h.world
  token h := hR.token h.world
  look h := hR.look h.world
  emit {w w₀} h e hkind := by
    obtain ⟨hresult, hworld⟩ := hR.emit h.world e hkind
    refine ⟨hresult, hworld, ?_⟩
    rw [overdue_emit, overdue_emit, h.overdue]
  think {w w₀} h c hc worker kind content confidence := by
    obtain ⟨hresult, hworld⟩ := hR.think h.world c hc worker kind content confidence
    refine ⟨hresult, hworld, ?_⟩
    rw [overdue_think, overdue_think, h.overdue]
  settle h := ⟨hR.settle h.world, h.overdue⟩
  withToken h token := ⟨hR.withToken h.world token, h.overdue⟩
  withOverdue h overdue := ⟨hR.withOverdue h.world overdue, rfl⟩
  called h _ _ _ hfit hanswer invocation := by
    obtain ⟨hreply, hcalled⟩ := hR.called h.world hfit hanswer invocation
    exact ⟨hreply, hcalled, h.overdue⟩

theorem settleIf (hR : Alignment thinking thinking₀ look Fit R) (h : R w w₀) (p : Prop)
    [Decidable p] :
    R (if p then w.settle else w) (if p then w₀.settle else w₀) := by
  split
  · exact hR.settle h
  · exact h

theorem enterScope (hR : Alignment thinking thinking₀ look Fit R) (h : R w w₀) :
    Agrees (AtWork R) w.enterScope w₀.enterScope := by
  unfold World.enterScope
  rw [hR.token h]
  cases w.token with
  | none => exact ⟨rfl, hR.withOverdue (hR.withToken h none) false, rfl⟩
  | some t => exact ⟨rfl, hR.withOverdue (hR.withToken h (some t.enter.2)) false, rfl⟩

theorem leaveScope (hR : Alignment thinking thinking₀ look Fit R) (h : R w w₀)
    (scope : Option Nat) :
    R (w.leaveScope scope) (w₀.leaveScope scope) := by
  unfold World.leaveScope
  rw [hR.token h]
  cases w.token with
  | none => exact h
  | some t =>
    cases scope with
    | none => exact h
    | some s => exact hR.withToken h _

theorem isReached (hR : Alignment thinking thinking₀ look Fit R) (h : R w w₀) (scope : Option Nat) :
    w₀.isReached scope = w.isReached scope := by
  unfold World.isReached
  rw [hR.token h]

theorem checkToken (hR : Alignment thinking thinking₀ look Fit R) (h : R w w₀) :
    w₀.checkToken = w.checkToken := by
  unfold World.checkToken
  rw [hR.token h]

theorem heed (hR : Alignment thinking thinking₀ look Fit R) (h : R w w₀) (r : Reply) :
    R (w.heed r) (w₀.heed r) := by
  unfold World.heed
  cases r.cancel with
  | none => exact h
  | some reason =>
    dsimp only
    unfold cancel
    rw [hR.token h]
    exact hR.withToken h _

theorem cutOff? (hR : Alignment thinking thinking₀ look Fit R) (h : AtWork R w w₀)
    (c : Circumstances) :
    w₀.cutOff? (c.mirrored thinking₀) = w.cutOff? c := by
  unfold World.cutOff?
  rw [show (c.mirrored thinking₀).scope = c.scope from rfl, hR.isReached h.world c.scope, h.overdue]

theorem wait (hR : Alignment thinking thinking₀ look Fit R) (h : AtWork R w w₀) (c : Circumstances)
    (aside : Bool) (r : Reply) :
    AtWork R (w.wait c aside r) (w₀.wait (c.mirrored thinking₀) aside r) := by
  have hsettled := hR.atWork.settleIf h (aside || r.late)
  unfold World.wait
  dsimp only
  generalize (if aside || r.late then w.settle else w) = w' at hsettled ⊢
  generalize (if aside || r.late then w₀.settle else w₀) = w₀' at hsettled ⊢
  rw [show (c.mirrored thinking₀).hasDeadline = c.hasDeadline from rfl, hsettled.overdue]
  exact hR.atWork.withOverdue hsettled _

theorem await (hR : Alignment thinking thinking₀ look Fit R) (h : AtWork R w w₀) (c : Circumstances)
    (aside : Bool) (r : Reply) :
    Agrees (AtWork R) (w.await c aside r) (w₀.await (c.mirrored thinking₀) aside r) := by
  have hwaited := hR.wait (hR.atWork.heed h r) c aside r
  unfold World.await
  dsimp only
  rw [hR.cutOff? hwaited c]
  exact ⟨rfl, hwaited⟩

theorem call (hR : Alignment thinking thinking₀ look Fit R) (h : AtWork R w w₀) (c : Circumstances)
    {worker : Worker σ} (hfit : Fit worker) {action : ActionKind} {answer : Answering σ}
    (hanswer : worker.answering action = .ok answer) (invocation : Invocation) :
    Agrees (AtWork R) (w.call c worker answer invocation)
      (w₀.call (c.mirrored thinking₀) worker answer invocation) := by
  unfold World.call World.barred?
  rw [hR.cutOff? h c]
  split
  · exact ⟨rfl, h⟩
  · have hsettled := hR.atWork.settleIf h (worker.capability.manner = .prepared)
    generalize (if worker.capability.manner = .prepared then w.settle else w) = w' at hsettled ⊢
    generalize (if worker.capability.manner = .prepared then w₀.settle else w₀) = w₀' at hsettled ⊢
    obtain ⟨hreply, hcalled⟩ := hR.atWork.called hsettled hfit hanswer invocation
    dsimp only
    rw [hreply]
    exact hR.await hcalled c _ _

theorem ask (hR : Alignment thinking thinking₀ look Fit R) (h : AtWork R w w₀) (c : Circumstances)
    {worker : Worker σ} (hfit : Fit worker) (request : Request) :
    Agrees (AtWork R) (w.ask c worker request) (w₀.ask (c.mirrored thinking₀) worker request) := by
  unfold World.ask World.invoke
  split
  · exact ⟨rfl, h⟩
  · next answer hanswer => exact hR.call h c hfit hanswer ⟨request.action, request, c.step.config⟩

theorem perform (hR : Alignment thinking thinking₀ look Fit R) (h : AtWork R w w₀)
    {c : Circumstances} (hc : c.emitThinking = thinking) {worker : Worker σ} (hfit : Fit worker)
    (job : Job) :
    Agrees (AtWork R) (World.perform c worker job w)
      (World.perform (c.mirrored thinking₀) worker job w₀) := by
  induction job generalizing w w₀ with
  | finish output => exact ⟨rfl, h⟩
  | fail fault => exact ⟨rfl, h⟩
  | think kind content confidence rest ih =>
    obtain ⟨w₀', hnoted₀, hworld⟩ :=
      (hR.atWork.think h c hc worker.name kind content confidence).exists
    unfold World.perform
    rw [hnoted₀]
    generalize w.think c worker.name kind content confidence = noted at hworld ⊢
    obtain ⟨result, w'⟩ := noted
    cases result with
    | ok _ => exact ih hworld
    | error fault => exact ⟨rfl, hworld⟩
  | ask request next ih =>
    obtain ⟨w₀', hasked₀, hworld⟩ := (hR.ask h c hfit request).exists
    unfold World.perform
    rw [hasked₀]
    generalize w.ask c worker request = asked at hworld ⊢
    obtain ⟨ending, w'⟩ := asked
    cases ending with
    | returned output => exact ih output hworld
    | failed fault => exact ⟨rfl, hworld⟩
    | interrupted => exact ⟨rfl, hworld⟩
    | timedOut => exact ⟨rfl, hworld⟩

end Alignment
end World

namespace Executor
open World (Agrees Alignment AtWork)
variable {σ : Type}

def noting (x : Executor σ) (thinking : Bool) : Executor σ :=
  { x with config := { x.config with emitThinking := thinking } }

theorem noting_self (x : Executor σ) : x.noting x.config.emitThinking = x := rfl

/-- All workers of an executor are of a kind. -/
def Employs (x : Executor σ) (Fit : Worker σ → Prop) : Prop :=
  ∀ name worker, x.workers.get name = .ok worker → Fit worker

theorem employs_of_forall {x : Executor σ} {Fit : Worker σ → Prop}
    (h : ∀ entry ∈ x.workers, Fit entry.2) :
    x.Employs Fit := by
  intro name worker hget
  unfold WorkerRegistry.get at hget
  split at hget
  · next hlookup =>
    cases hget
    obtain ⟨before, after, hworkers, -⟩ := List.lookup_eq_some_iff.1 hlookup
    exact h (name, worker) (hworkers ▸ List.mem_append_right before List.mem_cons_self)
  · cases hget

/-- A part of a run comes out alike in two worlds, which stay in a relation: the context is the same
without its times. -/
structure Alike {α : Type} (R : World σ → World σ → Prop) (out out₀ : α × Context × World σ) :
    Prop where
  result : out₀.1 = out.1
  context : out₀.2.1 = out.2.1.untimed
  world : R out.2.2 out₀.2.2

theorem Alike.exists {α : Type} {R : World σ → World σ → Prop} {out out₀ : α × Context × World σ}
    (h : Alike R out out₀) :
    ∃ w₀', out₀ = (out.1, out.2.1.untimed, w₀') ∧ R out.2.2 w₀' :=
  ⟨out₀.2.2, Prod.ext h.result (Prod.ext h.context rfl), h.world⟩

variable {x : Executor σ} {thinking thinking₀ : Bool} {Fit : Worker σ → Prop}
  {R : World σ → World σ → Prop} {f : Flow}
  {look : σ → List (String × Value) → List (String × Value)} {c : Context}
    {s : Step} {w w₀ : World σ}

theorem agrees_carryOut (hR : Alignment thinking thinking₀ x.look Fit R) (h : R w w₀)
    {worker : Worker σ} (hfit : Fit worker) (handler : Handler) (prompt : String) :
    Agrees R ((x.noting thinking).carryOut s f c worker handler prompt w)
      ((x.noting thinking₀).carryOut s f c.untimed worker handler prompt w₀) := by
  obtain ⟨w₁₀, hentered₀, hentered⟩ := (hR.enterScope h).exists
  unfold carryOut
  rw [c.untimed_inputFor, hentered₀]
  generalize w.enterScope = entered at hentered ⊢
  obtain ⟨scope, w₁⟩ := entered
  dsimp only at hentered ⊢
  generalize hc : Circumstances.mk f.id c.sessionId s _ scope _ = around
  have hc₀ : Circumstances.mk f.id c.untimed.sessionId s
      (x.noting thinking₀).config.emitThinking scope
      ((x.noting thinking₀).timeoutFor s).isSome = around.mirrored thinking₀ := hc ▸ rfl
  rw [hc₀]
  obtain ⟨hending, hperformed⟩ := hR.perform hentered (c := around) (hc ▸ rfl) hfit
    (handler.job (c.inputFor s) ⟨s, prompt, (c.inputFor s).values⟩)
  have hleft := hR.atWork.leaveScope hperformed scope
  exact ⟨JobEnd.ext hending (hR.isReached hleft.world scope) hleft.overdue, hleft.world⟩

theorem agrees_outcome (hR : Alignment thinking thinking₀ x.look Fit R) (hfit : x.Employs Fit)
    (h : R w w₀) :
    Agrees R ((x.noting thinking).outcome s f c w)
      ((x.noting thinking₀).outcome s f c.untimed w₀) := by
  unfold outcome
  rw [show (x.noting thinking₀).workers = (x.noting thinking).workers from rfl,
    show (x.noting thinking₀).selector = (x.noting thinking).selector from rfl,
    show (x.noting thinking₀).actions = (x.noting thinking).actions from rfl]
  split
  · exact ⟨rfl, h⟩
  · next worker hworker =>
    split
    · exact ⟨rfl, h⟩
    · next handler _ =>
      unfold runHandler
      rw [c.untimed_inputFor]
      split
      · exact ⟨rfl, h⟩
      · next prompt _ =>
        obtain ⟨hending, hworld⟩ :=
          agrees_carryOut (x := x) (s := s) (f := f) (c := c) hR h
            (hfit _ worker hworker) handler prompt
        let made (e : JobEnd) : Except Fault StepOutcome := .ok (.ofEnd s (x.timeoutFor s) e)
        exact ⟨congrArg made hending, hworld⟩

theorem agrees_execute (hR : Alignment thinking thinking₀ x.look Fit R) (hfit : x.Employs Fit)
    (h : R w w₀) :
    Agrees R (Prod.map (Except.map StepResult.untimed) id ((x.noting thinking).execute s f c w))
      ((x.noting thinking₀).execute s f c.untimed w₀) := by
  have hkind : (startEvent c s w.now).kind ≠ .thinking := by simp [startEvent, stepEvent]
  obtain ⟨w₁₀, hstart₀, hstarted⟩ := (hR.emit h _ hkind).exists
  have huntimed : startEvent c.untimed s w₀.now = (startEvent c s w.now).untimed := by
    rw [hR.now h]
    rfl
  unfold execute
  rw [huntimed, hstart₀]
  generalize w.emit (startEvent c s w.now) = announced at hstarted ⊢
  obtain ⟨told, w₁⟩ := announced
  cases told with
  | error fault => exact ⟨rfl, hstarted⟩
  | ok _ =>
    dsimp only at hstarted ⊢
    obtain ⟨w₂₀, houtcome₀, hworld⟩ :=
      (agrees_outcome (s := s) (f := f) (c := c) hR hfit hstarted).exists
    rw [houtcome₀]
    generalize (x.noting thinking).outcome s f c w₁ = o at hworld ⊢
    obtain ⟨outcome, w₂⟩ := o
    cases outcome with
    | error fault => exact ⟨rfl, hworld⟩
    | ok outcome =>
      have hbegun : (x.noting thinking₀).begun s f w₂₀.now =
          ((x.noting thinking).begun s f w₂.now).untimed := by
        rw [hR.now hworld]
        rfl
      dsimp only
      rw [hbegun, StepOutcome.apply_untimed]
      cases outcome.apply ((x.noting thinking).begun s f w₂.now) with
      | mk applied r =>
        cases applied with
        | error fault => exact ⟨rfl, hworld⟩
        | ok _ =>
          dsimp only
          rw [show r.untimed.failed = r.failed from rfl]
          split
          · have hkind : (errorEvent c s r w₂.now).kind ≠ .thinking := by
              simp [errorEvent, stepEvent]
            obtain ⟨w₃₀, herror₀, htold⟩ := (hR.emit hworld _ hkind).exists
            have huntimed : errorEvent c.untimed s r.untimed w₂₀.now =
                (errorEvent c s r w₂.now).untimed := by
              rw [hR.now hworld]
              rfl
            rw [huntimed, herror₀]
            generalize w₂.emit (errorEvent c s r w₂.now) = told at htold ⊢
            obtain ⟨told, w₃⟩ := told
            cases told <;> exact ⟨rfl, htold⟩
          · exact ⟨rfl, hworld⟩

theorem alike_settleStep (hR : Alignment thinking thinking₀ look Fit R) (h : R w w₀)
    (hc : c.endTime = none) (r : StepResult) :
    Alike R (settleStep f s r c w) (settleStep f s r.untimed c.untimed w₀) := by
  have hc₀ : c.untimed.endTime = none := congrArg (Option.map _) hc
  have hkind : (completeEvent (c.keep r) s r w.now).kind ≠ .thinking := by
    simp [completeEvent, runEvent]
  obtain ⟨w₁₀, htold₀, hworld⟩ := (hR.emit h _ hkind).exists
  have huntimed : completeEvent (c.keep r).untimed s r.untimed w₀.now =
      (completeEvent (c.keep r) s r w.now).untimed := by
    rw [hR.now h]
    rfl
  unfold settleStep
  rw [c.record_eq hc, c.untimed.record_eq hc₀, ← Context.untimed_keep]
  dsimp only
  rw [huntimed, htold₀]
  generalize w.emit (completeEvent (c.keep r) s r w.now) = told at hworld ⊢
  obtain ⟨told, w₁⟩ := told
  cases told with
  | error fault => exact ⟨rfl, rfl, hworld⟩
  | ok _ =>
    dsimp only at hworld ⊢
    rw [hR.checkToken hworld]
    split
    · exact ⟨rfl, rfl, hworld⟩
    · rw [show nextStep s r.untimed.status r.untimed.output f =
        nextStep s r.status r.output f from rfl]
      split
      · exact ⟨rfl, rfl, hworld⟩
      · exact ⟨rfl, rfl, hworld⟩
      · exact ⟨rfl, rfl, hworld⟩

theorem alike_advance (hR : Alignment thinking thinking₀ x.look Fit R) (hfit : x.Employs Fit)
    (h : R w w₀) (hc : c.endTime = none) (current : String) :
    Alike R ((x.noting thinking).advance f current c w)
      ((x.noting thinking₀).advance f current c.untimed w₀) := by
  unfold advance
  rw [hR.checkToken h]
  split
  · exact ⟨rfl, rfl, h⟩
  · split
    · exact ⟨rfl, rfl, h⟩
    · next s _ =>
      have hpresent : (x.noting thinking₀).present w₀ s = (x.noting thinking).present w s :=
        congrArg (fun config => { s with config }) (congrFun (hR.look h) s.config)
      rw [hpresent]
      generalize (x.noting thinking).present w s = presented
      obtain ⟨w₁₀, hexecute₀, hworld⟩ :=
        (agrees_execute (s := presented) (f := f) (c := c) hR hfit h).exists
      rw [hexecute₀]
      generalize (x.noting thinking).execute presented f c w = executed at hworld ⊢
      obtain ⟨result, w₁⟩ := executed
      cases result with
      | error fault => exact ⟨rfl, rfl, hworld⟩
      | ok r => exact alike_settleStep hR hworld hc r

theorem alike_walk (hR : Alignment thinking thinking₀ x.look Fit R) (hfit : x.Employs Fit)
    (left : Nat) (current : String) (h : R w w₀) (hc : c.endTime = none) :
    Alike R ((x.noting thinking).walk f left current c w)
      ((x.noting thinking₀).walk f left current c.untimed w₀) := by
  -- By the passes that are left. Both runs go to the same step, since `nextStep` reads no times.
  induction left using Nat.strongRecOn generalizing current c w w₀ with
  | ind left ih =>
    obtain ⟨w₀', hadvance₀, hworld⟩ := (alike_advance (f := f) hR hfit h hc current).exists
    rw [walk.eq_def (x.noting thinking), walk.eq_def (x.noting thinking₀), hadvance₀]
    generalize hadvance : (x.noting thinking).advance f current c w = advanced at hworld ⊢
    obtain ⟨a, c', w'⟩ := advanced
    cases a with
    | stop fault => exact ⟨rfl, rfl, hworld⟩
    | complete => exact ⟨rfl, rfl, hworld⟩
    | next id =>
      cases left with
      | zero => exact ⟨rfl, rfl, hworld⟩
      | succ left => exact ih left left.lt_succ_self id hworld (endTime_advance hc hadvance)

theorem alike_depart (hR : Alignment thinking thinking₀ look Fit R) (h : R w w₀)
    (hfresh : c.Fresh) :
    Alike R (depart f c w) (depart f c.untimed w₀) := by
  unfold depart
  split
  · exact ⟨rfl, rfl, h⟩
  · next start _ =>
    have hstart : c.start w.now start =
        .ok { c with state := .running, startTime := some w.now, currentStep := some start } :=
          if_pos hfresh.state
    have hstart₀ : c.untimed.start w₀.now start =
        .ok (Context.untimed { c with
          state := .running, startTime := some w.now, currentStep := some start }) := by
      rw [hR.now h]
      exact if_pos hfresh.state
    rw [hstart, hstart₀]
    dsimp only
    generalize Context.mk _ _ _ _ _ _ _ _ _ _ _ _ = c₁
    have hkind : (departEvent c₁ w.now).kind ≠ .thinking := by simp [departEvent, runEvent]
    obtain ⟨w₀', htold₀, hworld⟩ := (hR.emit h _ hkind).exists
    have huntimed : departEvent c₁.untimed w₀.now = (departEvent c₁ w.now).untimed := by
      rw [hR.now h]
      rfl
    rw [huntimed, htold₀]
    generalize w.emit (departEvent c₁ w.now) = told at hworld ⊢
    obtain ⟨told, w'⟩ := told
    cases told <;> exact ⟨rfl, rfl, hworld⟩

theorem alike_close (hR : Alignment thinking thinking₀ look Fit R) (h : R w w₀)
    (hc : c.endTime = none) (result : Except Fault Unit) :
    Alike R (close result c w) (close result c.untimed w₀) := by
  have hc₀ : c.untimed.endTime = none := congrArg (Option.map _) hc
  rcases tellable_or_silent result with htold | ⟨fault, own, rfl, hsilent⟩
  · have hclosed : c.untimed.closed w₀.now result = (c.closed w.now result).untimed := by
      rw [hR.now h]
      cases result with
      | ok _ => rfl
      | error fault =>
        obtain ⟨text, hspoken⟩ := htold.spoken
        rw [Context.closed_of_spoken _ _ hspoken, Context.closed_of_spoken _ _ hspoken]
        rfl
    have hevent : closingEvent (c.closed w.now result).untimed w₀.now result =
        (closingEvent (c.closed w.now result) w.now result).untimed := by
      rw [hR.now h]
      cases result <;> rfl
    have hkind : (closingEvent (c.closed w.now result) w.now result).kind ≠ .thinking := by
      cases result <;> simp [closingEvent, arrivalEvent, abortEvent, runEvent]
    obtain ⟨hemitted, hworld⟩ := hR.emit h _ hkind
    rw [close_of_tellable htold hc, close_of_tellable htold hc₀, hclosed, hevent]
    exact ⟨congrArg (· >>= fun _ => result) hemitted, rfl, hworld⟩
  · rw [close_of_silent hsilent, close_of_silent hsilent]
    exact ⟨rfl, rfl, h⟩

theorem alike_drive (hR : Alignment thinking thinking₀ x.look Fit R) (hfit : x.Employs Fit)
    (h : R w w₀) (hfresh : c.Fresh) :
    Alike R ((x.noting thinking).drive f c w) ((x.noting thinking₀).drive f c.untimed w₀) := by
  obtain ⟨w₀', hdepart₀, hworld⟩ := (alike_depart (f := f) hR h hfresh).exists
  unfold drive
  rw [hdepart₀]
  generalize hdepart : depart f c w = departed at hworld ⊢
  obtain ⟨result, c₁, w₁⟩ := departed
  cases result with
  | error fault => exact ⟨rfl, rfl, hworld⟩
  | ok start =>
    have hc₁ : c₁.endTime = none := (depart_context hfresh hdepart).2.2
    have hlimit : (x.noting thinking₀).config.maxSteps = (x.noting thinking).config.maxSteps := rfl
    dsimp only at hworld ⊢
    rw [hlimit]
    generalize (x.noting thinking).config.maxSteps.toNat - 1 = left
    obtain ⟨w₀'', hwalk₀, hwalked⟩ := (alike_walk (f := f) hR hfit left start hworld hc₁).exists
    rw [hwalk₀]
    exact alike_close hR hwalked (endTime_walk left start hc₁) _

end Executor
end StepFlow
