import StepFlow.Proofs.Engine.Turns
import StepFlow.Proofs.Run.Abreast

/-!
# Turns in lockstep

A run that shares its world goes, turn by turn, where it goes in a world of its own without times
and without a session. Meanwhile the emitters of other runs go on taking events.
-/
namespace StepFlow.Engine
open World (Kin Abreast alignment_abreast)

def Order.unnamed (o : Order) : Order := { o with session := "" }

variable {σ : Type} {e : Engine σ} {o : Order} {w w₀ : World σ} {c : Context}
  {result : Except Fault Unit}
  {x y : Exchange} {position : Nat} {look : σ → List (String × Value) → List (String × Value)}
  {reading : List (String × Value) → List (String × Value)}

/-- The workers of an engine answer by nothing but what they are asked, and leave its catalog as it
is. -/
def Steady (e : Engine σ) : Prop := e.executor.Employs (Worker.Steady e.executor.look)

/-- A run with the emitter at a position, in a world that has come from an exchange, and the same
run in a world of its own. -/
structure Together (look : σ → List (String × Value) → List (String × Value))
    (reading : List (String × Value) → List (String × Value)) (x : Exchange) (position : Nat)
    (run run₀ : Stage × World σ) : Prop where
  stage : run₀.1 = run.1.untimed
  endless : run.1.Endless
  kin : Kin look reading run.2 run₀.2
  bus : run.2.exchange.bus = x.bus
  own : run.1.isOpen = true → run.2.exchange.Speaks position ∧ run₀.2.Voiced
  others : ∀ other, other ≠ position → x.Speaks other → run.2.exchange.Speaks other

theorem together_of_abreast (stage : Stage) (h : Abreast look reading x w w₀)
    (hspeaks : x.Speaks position) (hendless : stage.Endless) :
    Together look reading x position (stage, w) (stage.untimed, w₀) where
  stage := rfl
  endless := hendless
  kin := h.toKin
  bus := h.retains.bus
  own _ := ⟨h.retains.speaks position hspeaks, h.voiced₀⟩
  others other _ := h.retains.speaks other

theorem together_of_finished (h : Kin look reading w w₀) (hretains : x.Retains w.exchange)
    (outcome : Outcome) :
    Together look reading x position (.finished outcome, w) (.finished outcome.untimed, w₀) where
  stage := rfl
  endless := trivial
  kin := h
  bus := hretains.bus
  own hopen := by cases hopen
  others other _ := hretains.speaks other

theorem context_of_error {f : Flow} {fault : Fault}
    (hcaller : o.callerContext.toEntries = .error fault) :
    o.context f = .error fault := by
  unfold Order.context
  rw [hcaller]
  rfl

theorem accept_kin (e : Engine σ) (o : Order) (h : Kin look reading w w₀) :
    (∃ fault w' w₀', e.accept o w = (.error fault, w') ∧ e.accept o.unnamed w₀ =
      (.error fault, w₀') ∧ Kin look reading w' w₀' ∧ w.exchange.Retains w'.exchange) ∨
    ∃ f c, e.accept o w = (.ok (f, c), w) ∧ e.accept o.unnamed w₀ = (.ok (f, c.untimed), w₀) ∧
    c.Fresh := by
  unfold accept require
  rw [show o.unnamed.flow = o.flow from rfl]
  cases e.catalog.get? o.flow with
  | none => exact .inl ⟨_, _, _, rfl, rfl, h.publish _ _, Exchange.retains_publish _ _⟩
  | some f =>
    cases hcaller : o.callerContext.toEntries with
    | error fault =>
      dsimp only
      rw [context_of_error hcaller, context_of_error (o := o.unnamed) hcaller]
      exact .inl ⟨_, _, _, rfl, rfl, h, .refl _⟩
    | ok entries =>
      dsimp only
      rw [context_eq hcaller, context_eq (o := o.unnamed) hcaller]
      exact .inr ⟨f, begun o f entries, rfl, rfl, fresh_begun o f entries⟩

theorem together_waiting (e : Engine σ) (o : Order) (h : Kin look reading w w₀) :
    Together look reading w.exchange w.exchange.emitters.length (e.turn o .waiting w)
      (e.turn o.unnamed .waiting w₀) := by
  rw [turn.eq_def, turn.eq_def]
  dsimp only
  rcases accept_kin e o h with ⟨fault, w', w₀', haccept, haccept₀, hkin, hretains⟩
    | ⟨f, c, haccept, haccept₀, hfresh⟩
  · rw [haccept, haccept₀]
    exact together_of_finished hkin hretains (.refused fault)
  · have hopen : Abreast look reading w.exchange.enter w.openEmitter w₀.openEmitter :=
      { h.openEmitter with
        voiced := w.voiced_openEmitter
        voiced₀ := w₀.voiced_openEmitter
        retains := .refl _ }
    have hothers (stage : Stage) {w' w₀' : World σ} (hendless : stage.Endless)
        (h : Abreast look reading w.exchange.enter w' w₀') :
        Together look reading w.exchange w.exchange.emitters.length (stage,
          w') (stage.untimed, w₀') :=
      have htogether := together_of_abreast stage h w.exchange.speaks_enter hendless
      { htogether with
        bus := htogether.bus
        others := fun other _ hspeaks => h.retains.speaks other hspeaks.enter }
    obtain ⟨w₀', hdepart₀, hworld⟩ :=
      (Executor.alike_depart (f := f) (alignment_abreast look reading w.exchange.enter false) hopen
        hfresh).exists
    rw [haccept, haccept₀]
    dsimp only
    rw [hdepart₀]
    generalize hdepart : Executor.depart f c w.openEmitter = departed at hworld ⊢
    obtain ⟨result, c', w'⟩ := departed
    have hendless : c'.endTime = none := (Executor.depart_context hfresh hdepart).2.2
    cases result with
    | error fault => exact hothers (.leaving (.error fault) c') trivial hworld
    | ok start => exact hothers (.walking f _ start c') hendless hworld

theorem together_walking {f : Flow} {left : Nat} {current : String} (hfit : e.Steady)
    (o : Order) (h : Abreast e.executor.look reading x w w₀) (hspeaks : x.Speaks position)
    (hendless : c.endTime = none) :
    Together e.executor.look reading x position (e.turn o (.walking f left current c) w)
      (e.turn o.unnamed (.walking f left current c.untimed) w₀) := by
  have halike := Executor.alike_advance (f := f) (alignment_abreast e.executor.look reading x
    e.executor.config.emitThinking) hfit h hendless current
  rw [Executor.noting_self] at halike
  obtain ⟨w₀', hadvance₀, hworld⟩ := halike.exists
  rw [turn.eq_def, turn.eq_def]
  dsimp only
  rw [hadvance₀]
  generalize hadvance : e.executor.advance f current c w = advanced at hworld ⊢
  obtain ⟨advance, c', w'⟩ := advanced
  have hendless' : c'.endTime = none := Executor.endTime_advance hendless hadvance
  cases advance with
  | stop fault => exact together_of_abreast (.arriving (.error fault) c') hworld hspeaks hendless'
  | complete => exact together_of_abreast (.arriving (.ok ()) c') hworld hspeaks hendless'
  | next id =>
    cases left with
    | zero => exact together_of_abreast (.arriving (.error _) c') hworld hspeaks hendless'
    | succ left => exact together_of_abreast (.walking f left id c') hworld hspeaks hendless'

theorem together_arriving (e : Engine σ) (o : Order) (h : Abreast look reading x w w₀)
    (hspeaks : x.Speaks position) (hendless : c.endTime = none) :
    Together look reading x position (e.turn o (.arriving result c) w)
      (e.turn o.unnamed (.arriving result c.untimed) w₀) := by
  obtain ⟨w₀', hclose₀, hworld⟩ :=
    (Executor.alike_close (alignment_abreast look reading x false) h hendless result).exists
  rw [turn.eq_def, turn.eq_def]
  dsimp only
  rw [hclose₀]
  exact together_of_abreast (.leaving _ _) hworld hspeaks trivial

theorem together_leaving (e : Engine σ) (o : Order) (h : Kin look reading w w₀)
    (hcurrent : w.exchange.current? = some position) :
    Together look reading w.exchange position (e.turn o (.leaving result c) w)
      (e.turn o.unnamed (.leaving result c.untimed) w₀) where
  stage := rfl
  endless := trivial
  kin := h.closeEmitter.withToken none
  bus := Exchange.bus_leave _
  own hopen := by cases hopen
  others other hne hspeaks := by
    have hleave : w.exchange.leave = w.exchange.leaveAt position := by
      unfold Exchange.leave
      rw [hcurrent]
    change w.exchange.leave.Speaks other
    rw [hleave]
    exact hspeaks.leaveAt hne.symm

theorem together_turn (hfit : e.Steady) (o : Order) (h : Kin e.executor.look reading w w₀)
    (hendless : stage.Endless) (hwaiting : stage = .waiting → position = w.exchange.emitters.length)
    (hopen : stage.isOpen = true → w.Voiced ∧ w.exchange.current? = some position ∧
      w.exchange.Speaks position ∧ w₀.Voiced) :
    Together e.executor.look reading w.exchange position (e.turn o stage w)
      (e.turn o.unnamed stage.untimed w₀) := by
  cases stage with
  | waiting =>
    rw [hwaiting rfl]
    exact together_waiting e o h
  | walking f left current c =>
    obtain ⟨hvoiced, -, hspeaks, hvoiced₀⟩ := hopen rfl
    exact together_walking hfit o ⟨h, hvoiced, hvoiced₀, .refl _⟩ hspeaks hendless
  | arriving result c =>
    obtain ⟨hvoiced, -, hspeaks, hvoiced₀⟩ := hopen rfl
    exact together_arriving e o ⟨h, hvoiced, hvoiced₀, .refl _⟩ hspeaks hendless
  | leaving result c => exact together_leaving e o h (hopen rfl).2.1
  | finished outcome => exact together_of_finished h (.refl _) outcome

theorem attempt_kin (hfit : e.Steady) (o : Order) (h : Kin e.executor.look reading w w₀) :
    (e.attempt o.unnamed w₀).1 = (e.attempt o w).1.untimed ∧
      Kin e.executor.look reading (e.attempt o w).2 (e.attempt o.unnamed w₀).2 := by
  unfold attempt
  rcases accept_kin e o h with ⟨fault, w', w₀', haccept, haccept₀, hkin, -⟩
    | ⟨f, c, haccept, haccept₀, hfresh⟩
  · rw [haccept, haccept₀]
    exact ⟨rfl, hkin⟩
  · have hopen := (h.withToken o.token).openEmitter
    have habreast : Abreast e.executor.look reading w.exchange.enter { w with
      token := o.token }.openEmitter
        { w₀ with token := o.token }.openEmitter :=
      { hopen with
        voiced := World.voiced_openEmitter _
        voiced₀ := World.voiced_openEmitter _
        retains := .refl _ }
    have halike :=
      Executor.alike_drive (f := f) (alignment_abreast e.executor.look reading
        _ e.executor.config.emitThinking) hfit habreast hfresh
    rw [Executor.noting_self] at halike
    obtain ⟨w₀', hdrive₀, hworld⟩ := halike.exists
    rw [haccept, haccept₀]
    unfold runOn Executor.run
    dsimp only
    rw [show o.unnamed.token = o.token from rfl, hdrive₀]
    exact ⟨rfl, hworld.toKin.closeEmitter.withToken none⟩

end StepFlow.Engine
