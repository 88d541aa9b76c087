import StepFlow.Proofs.Event.Voice
import StepFlow.Proofs.Run.Alignment

/-!
# Worlds abreast

What a run does in a world that others use too it does in a world of its own, if its workers answer
without regard to what they remember and leave the configurations of the steps as they are. Its
events may be refused, but then they are refused in both worlds.
-/
namespace StepFlow

def Worker.Memoryless {σ : Type} (worker : Worker σ) : Prop :=
  ∀ action answer, worker.answering action = .ok answer →
    ∀ invocation memory memory', (answer invocation memory).1 = (answer invocation memory').1

/-- A worker whose replies depend on nothing but what it is asked, and that changes nothing in the
configurations of steps. -/
structure Worker.Steady {σ : Type} (look : σ → List (String × Value) → List (String × Value))
    (worker : Worker σ) :
    Prop where
  memoryless : worker.Memoryless
  leaves : ∀ action answer, worker.answering action = .ok answer →
    ∀ invocation memory, look (answer invocation memory).2 = look memory

namespace World
variable {σ : Type} {w w₀ : World σ} {x : Exchange}
  {look : σ → List (String × Value) → List (String × Value)}
  {reading : List (String × Value) → List (String × Value)}

/-- Events are emitted, and it depends on the bus only whether they are refused. -/
structure Voiced (w : World σ) : Prop where
  emitting : w.emitting = true
  exchange : w.exchange.Voiced

theorem voiced_openEmitter (w : World σ) : w.openEmitter.Voiced := ⟨rfl, w.exchange.voiced_enter⟩

theorem Voiced.of_retains (h : w.Voiced) {w' : World σ} (hretains : w.exchange.Retains w'.exchange)
    (hemitting : w'.emitting = w.emitting) : w'.Voiced :=
  ⟨hemitting.trans h.emitting, hretains.voiced h.exchange⟩

theorem Voiced.emit (h : w.Voiced) (e : Event) :
    match w.exchange.bus.admit e.kind with
    | .error fault => w.emit e = (.error fault, w)
    | .ok () => ∃ exchange, w.emit e = (.ok (), { w with exchange, emitted := w.emitted ++ [e] }) ∧
        w.exchange.Retains exchange := by
  have hemit := Exchange.emit_of_voiced h.exchange e
  unfold World.emit
  rw [if_pos h.emitting]
  cases hadmitted : w.exchange.bus.admit e.kind with
  | error fault =>
    rw [hadmitted] at hemit
    dsimp only at hemit ⊢
    rw [hemit]
  | ok _ =>
    rw [hadmitted] at hemit
    obtain ⟨exchange, hexchange, hretains⟩ := hemit
    refine ⟨exchange, ?_, hretains⟩
    rw [hexchange]

/-- A world, and another one without times for the same run. Configurations have the same reading in
both. -/
structure Kin (look : σ → List (String × Value) → List (String × Value))
    (reading : List (String × Value) → List (String × Value)) (w w₀ : World σ) : Prop where
  now : w₀.now = .epoch
  token : w₀.token = w.token
  bus : w₀.exchange.bus = w.exchange.bus
  calls : w₀.calls = w.calls
  emitted : w₀.emitted = w.emitted.map Event.untimed
  reads : look w.memory = reading
  reads₀ : look w₀.memory = reading

namespace Kin

theorem openEmitter (h : Kin look reading w w₀) : Kin look reading w.openEmitter w₀.openEmitter :=
  { h with bus := h.bus }

theorem closeEmitter (h : Kin look reading w w₀) :
    Kin look reading w.closeEmitter w₀.closeEmitter :=
  { h with bus := (Exchange.bus_leave _).trans (h.bus.trans (Exchange.bus_leave _).symm) }

theorem publish (h : Kin look reading w w₀) (e e₀ : Event) :
    Kin look reading { w with exchange := w.exchange.publish e } { w₀ with
      exchange := w₀.exchange.publish e₀ } :=
  { h with
    bus := (Exchange.retains_publish _ _).bus.trans
      (h.bus.trans (Exchange.retains_publish _ _).bus.symm) }

theorem withToken (h : Kin look reading w w₀) (token : Option Token) :
    Kin look reading { w with token } { w₀ with token } :=
  { h with token := rfl }

theorem later (h : Kin look reading w w₀) (now : Moment) :
    Kin look reading { w with now } { w₀ with now := .epoch } :=
  { h with now := rfl }

theorem cancel (h : Kin look reading w w₀) (reason : Option String) :
    Kin look reading (w.cancel reason) (w₀.cancel reason) :=
  { h with token := congrArg (Option.map fun t : Token => t.cancel reason) h.token }

end Kin

/-- Two worlds in which a run can go on, where the first one has come from an exchange without a
loss for others. -/
structure Abreast (look : σ → List (String × Value) → List (String × Value))
    (reading : List (String × Value) → List (String × Value)) (x : Exchange) (w w₀ : World σ) : Prop
    extends Kin look reading w w₀ where
  voiced : w.Voiced
  voiced₀ : w₀.Voiced
  retains : x.Retains w.exchange

namespace Abreast

theorem emit (h : Abreast look reading x w w₀) (e : Event) :
    Agrees (Abreast look reading x) (w.emit e) (w₀.emit e.untimed) := by
  have hemit := h.voiced.emit e
  have hemit₀ := h.voiced₀.emit e.untimed
  rw [h.bus, show e.untimed.kind = e.kind from rfl] at hemit₀
  cases hadmitted : w.exchange.bus.admit e.kind with
  | error fault =>
    rw [hadmitted] at hemit hemit₀
    rw [show w.emit e = _ from hemit, show w₀.emit e.untimed = _ from hemit₀]
    exact ⟨rfl, h⟩
  | ok _ =>
    rw [hadmitted] at hemit hemit₀
    obtain ⟨exchange, htold, hretains⟩ := hemit
    obtain ⟨exchange₀, htold₀, hretains₀⟩ := hemit₀
    rw [htold, htold₀]
    refine ⟨rfl, { h with
      bus := hretains₀.bus.trans (h.bus.trans hretains.bus.symm)
      voiced := h.voiced.of_retains hretains rfl
      voiced₀ := h.voiced₀.of_retains hretains₀ rfl
      retains := h.retains.trans hretains
      emitted := ?_ }⟩
    rw [List.map_append, ← h.emitted]
    rfl

theorem settle (h : Abreast look reading x w w₀) : Abreast look reading x w.settle w₀.settle :=
  have hsettled := w.exchange.retains_settle
  have hsettled₀ := w₀.exchange.retains_settle
  { h with
    bus := hsettled₀.bus.trans (h.bus.trans hsettled.bus.symm)
    voiced := h.voiced.of_retains hsettled rfl
    voiced₀ := h.voiced₀.of_retains hsettled₀ rfl
    retains := h.retains.trans hsettled }

theorem withToken (h : Abreast look reading x w w₀) (token : Option Token) :
    Abreast look reading x { w with token } { w₀ with token } :=
  { h with
    token := rfl
    voiced := ⟨h.voiced.emitting, h.voiced.exchange⟩
    voiced₀ := ⟨h.voiced₀.emitting, h.voiced₀.exchange⟩ }

theorem withOverdue (h : Abreast look reading x w w₀) (overdue : Bool) :
    Abreast look reading x { w with overdue } { w₀ with overdue } :=
  { h with
    voiced := ⟨h.voiced.emitting, h.voiced.exchange⟩
    voiced₀ := ⟨h.voiced₀.emitting, h.voiced₀.exchange⟩ }

theorem called (h : Abreast look reading x w w₀) (call : Call) {memory memory₀ : σ}
    (hreads : look memory = look w.memory) (hreads₀ : look memory₀ = look w₀.memory) :
    Abreast look reading x { w with memory, calls := w.calls ++ [call] }
      { w₀ with memory := memory₀, calls := w₀.calls ++ [call] } :=
  { h with
    reads := hreads.trans h.reads
    reads₀ := hreads₀.trans h.reads₀
    calls := by rw [h.calls]
    voiced := ⟨h.voiced.emitting, h.voiced.exchange⟩
    voiced₀ := ⟨h.voiced₀.emitting, h.voiced₀.exchange⟩ }

end Abreast

theorem alignment_abreast (look : σ → List (String × Value) → List (String × Value))
    (reading : List (String × Value) → List (String × Value)) (x : Exchange) (thinking : Bool) :
    Alignment thinking thinking look (Worker.Steady look) (Abreast look reading x) where
  now h := h.now
  token h := h.token
  look h := h.reads₀.trans h.reads.symm
  emit h e _ := h.emit e
  think h := by
    intro c hc worker kind content confidence
    have hmirrored : (c.mirrored thinking).emitThinking = c.emitThinking := hc.symm
    rw [think_eq, think_eq, h.now, hmirrored]
    split
    · exact h.emit (c.note worker kind content confidence _)
    · exact ⟨rfl, h⟩
  settle h := h.settle
  withToken h token := h.withToken token
  withOverdue h overdue := h.withOverdue overdue
  called h := by
    intro worker action answer hfit hanswer invocation
    have hleaves := hfit.leaves action answer hanswer invocation
    exact ⟨hfit.memoryless action answer hanswer invocation _ _, h.called _ (hleaves _) (hleaves _)⟩

end World
end StepFlow
