import StepFlow.Proofs.Run.Course

/-!
# The work of a step

What the execution of a step adds to the world is within the bounds of its handler's job: calls for
the requests of the job, and notes about it.
-/
namespace StepFlow

/-- Calls for requests that have a property, and some notes at most about a job, none where these
are not emitted. -/
structure Circumstances.Work (c : Circumstances) (P : Request → Prop) (limit : Nat)
    (made : List Call) (notes : List Event) : Prop where
  requests : ∀ call ∈ made, P call.invocation.request
  length : notes.length ≤ limit
  silent : c.emitThinking = false → notes = []
  notes : ∀ e ∈ notes, e.IsNote c

namespace Circumstances.Work
variable {c : Circumstances} {P : Request → Prop} {limit more : Nat} {made made' : List Call}
  {notes notes' : List Event}

theorem none (c : Circumstances) (P : Request → Prop) (limit : Nat) : c.Work P limit [] [] :=
  ⟨by simp, limit.zero_le, fun _ => rfl, by simp⟩

theorem append (h : c.Work P limit made notes) (g : c.Work P more made' notes') :
    c.Work P (limit + more) (made ++ made') (notes ++ notes') where
  requests := List.forall_mem_append.2 ⟨h.requests, g.requests⟩
  length := by
    rw [List.length_append]
    exact Nat.add_le_add h.length g.length
  silent hc := by rw [h.silent hc, g.silent hc, List.append_nil]
  notes := List.forall_mem_append.2 ⟨h.notes, g.notes⟩

end Circumstances.Work

namespace World
variable {σ : Type} {P : Request → Prop}

theorem work_think (c : Circumstances) (worker : Worker σ) (w : World σ) (kind content : String)
    (confidence : Value) :
    ∃ notes, w.Progress [] notes (w.think c worker.name kind content confidence).2 ∧
    c.Work P 1 [] notes := by
  rw [think_eq]
  split
  · next hthinking =>
    have hnote := c.isNote_note worker.name kind content confidence w.now
    have hno : c.emitThinking ≠ false := by simp [hthinking]
    cases h : w.emit (c.note worker.name kind content confidence w.now) with
    | mk outcome w' =>
      cases outcome with
      | ok _ =>
        refine ⟨_, progress_of_emit h, ⟨by simp, ?_, fun hc => absurd hc hno, ?_⟩⟩
        · split <;> simp
        · split <;> simp [hnote]
      | error fault =>
        refine ⟨[], ?_, .none c P 1⟩
        rw [(emit_refused h).1]
        exact .refl w
  · exact ⟨[], .refl w, .none c P 1⟩

/-- A job within bounds adds work within these bounds. -/
theorem work_perform (c : Circumstances) (worker : Worker σ) {job : Job} {limit asks : Nat}
    (hjob : job.Within P limit asks) (w : World σ) :
    ∃ made notes, w.Progress made notes (perform c worker job w).2 ∧ c.Work P limit made notes := by
  induction job generalizing limit asks w with
  | finish output => exact ⟨[], [], .refl w, .none c P limit⟩
  | fail fault => exact ⟨[], [], .refl w, .none c P limit⟩
  | think kind content confidence rest ih =>
    obtain ⟨hlimit, hrest⟩ := hjob
    obtain ⟨notes, hthought, hwork⟩ := work_think (P := P) c worker w kind content confidence
    have hsum : 1 + (limit - 1) = limit := by omega
    unfold perform
    split
    · next w₁ heq =>
      rw [heq] at hthought
      obtain ⟨made, more, hdone, hmore⟩ := ih hrest w₁
      exact ⟨_, _, hthought.trans hdone, hsum ▸ hwork.append hmore⟩
    · next heq =>
      rw [heq] at hthought
      exact ⟨[], notes, hthought, { hwork with length := Nat.le_trans hwork.length hlimit }⟩
  | ask request next ih =>
    obtain ⟨hrequest, -, hnext⟩ := hjob
    obtain ⟨made, hasked, -, hmade⟩ := progress_ask c worker w request
    have hwork : c.Work P 0 made [] :=
      { Circumstances.Work.none c P 0 with
        requests := fun call hcall => hmade call hcall ▸ hrequest }
    unfold perform
    split
    · next v w₁ heq =>
      rw [heq] at hasked
      obtain ⟨more, notes, hdone, hmore⟩ := ih v (hnext v) w₁
      exact ⟨_, _, hasked.trans hdone, limit.zero_add ▸ hwork.append hmore⟩
    · next heq =>
      rw [heq] at hasked
      exact ⟨made, [], hasked, { hwork with length := limit.zero_le }⟩

end World

def ActionRegistry.BuiltIn (r : ActionRegistry) : Prop := ∀ e ∈ r, e.2 = Handler.builtin e.1

theorem ActionRegistry.builtIn_default : ActionRegistry.default.BuiltIn := by
  simp [BuiltIn, default, ofKinds]

namespace Executor
variable {σ : Type} {x : Executor σ} {s : Step} {f : Flow} {c : Context} {w w' : World σ}
  {P : Request → Prop} {limit : Nat}

/-- The circumstances of a step's job, its scope and its deadline apart. -/
def around (x : Executor σ) (s : Step) (f : Flow) (c : Context) : Circumstances where
  flowId := f.id
  sessionId := c.sessionId
  step := s
  emitThinking := x.config.emitThinking

def Bounded (x : Executor σ) (s : Step) (c : Context) (P : Request → Prop) (limit : Nat) : Prop :=
  ∀ handler, (s.action, handler) ∈ x.actions → ∀ context, ∃ asks,
    (handler.job (c.inputFor s) context).Within P limit asks

theorem work_carryOut (worker : Worker σ) {handler : Handler}
    (hhandler : ∀ context, ∃ asks, (handler.job (c.inputFor s) context).Within P limit asks)
    (prompt : String) (w : World σ) :
    ∃ made notes, w.Progress made notes (x.carryOut s f c worker handler prompt w).2 ∧
      (x.around s f c).Work P limit made notes := by
  have hentered := w.progress_enterScope
  unfold carryOut
  generalize w.enterScope = entered at hentered
  obtain ⟨scope, w₁⟩ := entered
  dsimp only at hentered ⊢
  generalize hc : Circumstances.mk _ _ _ _ _ _ = inside
  obtain ⟨asks, hjob⟩ := hhandler ⟨s, prompt, (c.inputFor s).values⟩
  obtain ⟨made, notes, hperformed, hwork⟩ := World.work_perform inside worker hjob w₁
  refine ⟨made, notes, ?_, ?_⟩
  · simpa using (hentered.trans hperformed).trans (World.progress_leaveScope _ scope)
  · subst hc
    exact { hwork with notes := fun e he => ⟨(hwork.notes e he).1, (hwork.notes e he).2,
      (hwork.notes e he).3, (hwork.notes e he).4⟩ }

theorem work_outcome (hbounded : x.Bounded s c P limit) (f : Flow) (w : World σ) :
    ∃ made notes, w.Progress made notes (x.outcome s f c w).2 ∧
    (x.around s f c).Work P limit made notes := by
  generalize ho : x.outcome s f c w = o
  cases outcome_cases ho with
  | unstaffed => exact ⟨[], [], .refl w, .none _ _ _⟩
  | unprompted => exact ⟨[], [], .refl w, .none _ _ _⟩
  | carried hstaffed =>
    exact work_carryOut _ (hbounded _ (ActionRegistry.mem_of_get hstaffed.handler)) _ w

theorem calls_emit (w : World σ) (e : Event) : (w.emit e).2.calls = w.calls := by
  unfold World.emit
  split
  · split <;> rfl
  · rfl

/-- The calls of an execution are those of its outcome. -/
theorem calls_execute (x : Executor σ) (s : Step) (f : Flow) (c : Context) (w : World σ) :
    (x.execute s f c w).2.calls = w.calls ∨
      (x.execute s f c w).2.calls =
      (x.outcome s f c (w.emit (startEvent c s w.now)).2).2.calls := by
  unfold execute
  split
  · next hemit =>
    have hcalls := calls_emit w (startEvent c s w.now)
    rw [hemit] at hcalls
    exact .inl hcalls
  · next w₁ hemit =>
    right
    rw [hemit]
    dsimp only
    split
    · next ho => rw [ho]
    · next o w₂ ho =>
      rw [ho]
      split
      · rfl
      · next r _ =>
        have hcalls := calls_emit w₂ (errorEvent c s r w₂.now)
        split
        · split
          · next herror => rwa [herror] at hcalls
          · next herror => rwa [herror] at hcalls
        · rfl

theorem requests_of_visit {p : Pass σ} {v : Visit σ} (hv : x.visit? f p = some v)
    (hbounded : x.Bounded v.step v.context P limit) :
    ∀ call ∈ v.calls, P call.invocation.request := by
  obtain ⟨hcontext, hbefore, -, hexecute⟩ := visit?_eq_some hv
  have hcalls := x.calls_execute (x.present v.before v.step) f v.context v.before
  rw [hcontext, hbefore, hexecute] at hcalls
  rw [hcontext] at hbounded
  unfold Visit.calls
  rw [hbefore]
  dsimp only at hcalls
  rcases hcalls with hnone | hsome
  · rw [hnone, List.drop_length]
    simp
  · have hpresent : x.Bounded (x.present p.world v.step) p.context P limit := hbounded
    obtain ⟨made, notes, hprogress, hwork⟩ :=
      work_outcome hpresent f
        (p.world.emit (startEvent p.context (x.present p.world v.step) p.world.now)).2
    rw [hsome, hprogress.calls, calls_emit, List.drop_left]
    exact hwork.requests

theorem bounded_of_builtIn (h : x.actions.BuiltIn) (s : Step) (c : Context) :
    x.Bounded s c (Request.Combines (c.inputFor s)) (Handler.notes s.action) := by
  intro handler hmem context
  obtain rfl : handler = Handler.builtin s.action := h _ hmem
  exact ⟨1, Handler.within_builtin _ _ _⟩

end Executor
end StepFlow
