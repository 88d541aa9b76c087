import StepFlow.Proofs.Run.Inputs
import StepFlow.Proofs.Run.Mirror

/-!
# Observers of a run

Who listens to a run, and whether the notes are emitted, has no influence on it: a mirror of its
world goes the same way, step by step.
-/
namespace StepFlow.Executor
open World (Mirrors)
variable {σ : Type} {c : Context}

def mirror (w : World σ) : World σ := { memory := w.memory, token := w.token }

/-- What a run comes to in a world, given what it comes to in the mirror. -/
structure Reflects (thinking : Bool) (w : World σ)
    (out out₀ : Except Fault Unit × Context × World σ) : Prop where
  result : out.1 = out₀.1
  context : out.2.1.untimed = out₀.2.1
  memory : out.2.2.memory = out₀.2.2.memory
  token : out.2.2.token = out₀.2.2.token
  calls : out.2.2.calls = w.calls ++ out₀.2.2.calls
  emitted : ∃ told, out.2.2.emitted = w.emitted ++ told ∧ told.map Event.untimed =
    shown thinking out₀.2.2.emitted

theorem reflects_run (x : Executor σ) (f : Flow) (thinking : Bool) (hfresh : c.Fresh)
    (hw : w.TakesEvents) :
    Reflects thinking w ((x.noting thinking).run f c w)
      ((x.noting true).run f c.untimed (mirror w)) := by
  have hemitters (w : World σ) : w.openEmitter.exchange.emitters ≠ [] := by
    simp [World.openEmitter, Exchange.enter]
  have hopen : Mirrors thinking w w.openEmitter (mirror w).openEmitter := {
    opened := ⟨rfl, hw, hemitters w⟩
    mirror := ⟨rfl, rfl, hemitters (mirror w)⟩
    now := rfl
    memory := rfl
    token := rfl
    calls := (List.append_nil _).symm
    emitted := ⟨[], (List.append_nil _).symm, by cases thinking <;> rfl⟩ }
  obtain ⟨hresult, hcontext, hworld⟩ :=
    alike_drive (x := x) (f := f) (World.alignment_mirrors thinking x.look w)
      (fun _ _ _ => trivial) hopen hfresh
  exact ⟨hresult.symm, hcontext.symm, hworld.memory.symm, hworld.token.symm,
    hworld.calls, hworld.emitted⟩

/-- Two runs from the same state, in which only the listeners, the notes, the session and the times
differ, make the same calls, come to the same result and leave the same context, its session and its
times apart. What they emit is the same as well, but for the notes. -/
theorem observers_are_harmless {c₁ c₂ : Context} {w₁ w₂ : World σ} (x : Executor σ) (f : Flow)
    (hfresh₁ : c₁.Fresh) (hfresh₂ : c₂.Fresh) (hw₁ : w₁.TakesEvents) (hw₂ : w₂.TakesEvents)
    (hc : c₁.untimed = c₂.untimed)
    (hmemory : w₁.memory = w₂.memory) (htoken : w₁.token = w₂.token) (thinking₁ thinking₂ : Bool) :
    let out₁ := (x.noting thinking₁).run f c₁ w₁
    let out₂ := (x.noting thinking₂).run f c₂ w₂
    out₁.1 = out₂.1 ∧ out₁.2.1.untimed = out₂.2.1.untimed ∧ out₁.2.2.memory = out₂.2.2.memory ∧
      out₁.2.2.token = out₂.2.2.token ∧
      ∃ made all told₁ told₂, out₁.2.2.calls = w₁.calls ++ made ∧
        out₂.2.2.calls = w₂.calls ++ made ∧
        out₁.2.2.emitted = w₁.emitted ++ told₁ ∧ out₂.2.2.emitted = w₂.emitted ++ told₂ ∧
        told₁.map Event.untimed = shown thinking₁ all ∧
        told₂.map Event.untimed = shown thinking₂ all := by
  intro out₁ out₂
  have h₁ := reflects_run x f thinking₁ hfresh₁ hw₁
  have h₂ := reflects_run x f thinking₂ hfresh₂ hw₂
  have hmirror : mirror w₁ = mirror w₂ := by
    unfold mirror
    rw [hmemory, htoken]
  rw [hc, hmirror] at h₁
  obtain ⟨told₁, hemitted₁, htold₁⟩ := h₁.emitted
  obtain ⟨told₂, hemitted₂, htold₂⟩ := h₂.emitted
  exact ⟨h₁.result.trans h₂.result.symm, h₁.context.trans h₂.context.symm,
    h₁.memory.trans h₂.memory.symm,
    h₁.token.trans h₂.token.symm, _, _, told₁, told₂, h₁.calls, h₂.calls, hemitted₁,
      hemitted₂, htold₁, htold₂⟩

/-- One run is told in full to nobody; the other without its notes to a listener that fails on
whatever it gets. -/
theorem relay_is_not_observed :
    let failing : Listener := { name := "tap", failOn := fun _ _ => true }
    let bus :=
      (Bus.subscribe { capacity := .limit 0 } .stepStart failing).subscribe .stepComplete failing
    let out₁ := (counting.noting true).run Flow.relay (.new []) { memory := 0 }
    let out₂ := (counting.noting false).run Flow.relay { Context.new [] with sessionId := "other" }
      { memory := 0, exchange := { bus } }
    out₁.1 = out₂.1 ∧ out₁.2.1.untimed = out₂.2.1.untimed ∧ out₁.2.2.calls = out₂.2.2.calls ∧
      out₁.2.2.calls.length = 4 ∧ out₁.2.2.emitted.length = 15 ∧ out₂.2.2.emitted.length = 11 ∧
      out₂.2.2.emitted.map Event.untimed =
        (out₁.2.2.emitted.map Event.untimed).filter fun e => e.kind != .thinking := by
  intro failing bus out₁ out₂
  have hfresh : { Context.new [] with sessionId := "other" }.Fresh := ⟨rfl, rfl, rfl, rfl, rfl, rfl⟩
  have hw₁ : World.TakesEvents (σ := Nat) { memory := 0 } := rfl
  have hw₂ : World.TakesEvents (σ := Nat) { memory := 0, exchange := { bus } } := rfl
  obtain ⟨hresult, hcontext, -, -, made, all, told₁, told₂, hcalls₁, hcalls₂, hemitted₁,
    hemitted₂, htold₁, htold₂⟩ :=
    observers_are_harmless counting Flow.relay (Context.fresh_new []) hfresh hw₁
      hw₂ rfl rfl rfl true false
  refine ⟨hresult, hcontext, hcalls₁.trans hcalls₂.symm, by decide +kernel, by
    decide +kernel, by decide +kernel, ?_⟩
  rw [hemitted₁, hemitted₂, List.nil_append, List.nil_append, htold₁, htold₂]
  rfl

/-- A listener on a bus whose capacity means nothing ends the run that it listens to. -/
theorem not_every_observer_is_harmless :
    ¬∀ (x : Executor Unit) (f : Flow) (c : Context) (w₁ w₂ : World Unit), c.Fresh →
      w₁.memory = w₂.memory → w₁.token = w₂.token → (x.run f c w₁).1 = (x.run f c w₂).1 := by
  intro h
  let x := lone 3 { outcome := .ok (.text "found") }
  let f : Flow := { id := "single", steps := [{ id := "a", action := .synthesize }] }
  let w₁ : World Unit := { memory := () }
  let w₂ : World Unit := { w₁ with exchange := { bus := refusing .flowStart } }
  have hunheard : (x.run f (.new []) w₁).1.isOk = true := by decide +kernel
  have hstart : f.start = .ok "a" := rfl
  rw [h x f (.new []) w₁ w₂ (Context.fresh_new []) rfl rfl,
    run_refused hstart (Context.fresh_new []) (admit_refusing .flowStart)] at hunheard
  cases hunheard

end StepFlow.Executor
