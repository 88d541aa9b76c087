import StepFlow.Proofs.Run.Declared
import StepFlow.Proofs.Run.Inputs

/-!
# The events of a run

A run tells that it departs, then one block of events for each of its visits, and then how it ends.
A block is cut short only by a fault that leaves the execution of its step, and this ends the run:
silently, if it cannot tell its text.
-/
namespace StepFlow

/-- What the built-in handler for a step may note: one note at most, for some actions only, where
notes are emitted. -/
structure Executor.NotesOn {σ : Type} (x : Executor σ) (s : Step) (f : Flow) (c : Context)
    (notes : List Event) :
    Prop where
  length : notes.length ≤ 1
  noted : notes ≠ [] → x.config.emitThinking = true ∧ s.action ∈ [.search, .analyze, .synthesize]
  notes : ∀ e ∈ notes, e.IsNote (x.around s f c)

namespace Executor
variable {σ : Type}

def errorEvents (c : Context) (s : Step) (r : StepResult) (now : Moment) : List Event :=
  if r.failed then [errorEvent c s r now] else []

/-- The blocks of events that visits tell from a position on, in a run with the ids of a context,
and the fault that cuts the last block short, if any does. -/
inductive Blocks (x : Executor σ) (f : Flow) (c : Context) (now : Moment) :
    Nat → List (Visit σ) → List Event → Option Fault → Prop
  | done (position : Nat) : Blocks x f c now position [] [] none
  | cut {position : Nat} {v : Visit σ} {notes : List Event} {fault : Fault} :
    v.outcome = .error fault → x.NotesOn v.step f c notes →
      Blocks x f c now position [v] (startEvent { c with currentIndex := position } v.step
        now :: notes) (some fault)
  | whole {position : Nat} {v : Visit σ} {vs : List (Visit σ)}
      {r : StepResult} {notes told : List Event}
      {fault : Option Fault} : v.outcome = .ok r → x.NotesOn v.step f c notes →
    Blocks x f c now (position + 1) vs told fault →
      Blocks x f c now position (v :: vs) (startEvent { c with
        currentIndex := position } v.step now :: notes ++
        errorEvents c v.step r now ++ completeEvent c v.step r now :: told) fault

/-- The event has the ids of a run: those of its context, which is one of the flow. -/
structure OfRun (f : Flow) (c : Context) (e : Event) : Prop where
  sessionId : e.sessionId = some c.sessionId
  flowId : c.flowId = f.id → e.flowId = some f.id

/-- The event that ends a run, by the state and the error that it leaves. There is none where the
last of its visits raises what cannot tell its text. -/
inductive Closing (f : Flow) (vs : List (Visit σ)) (c : Context) (now : Moment) :
    List Event → Prop
  | completed : c.state = .completed → Closing f vs c now [arrivalEvent c now]
  | failed {info : Value} : c.state.isTerminal = true → c.state ≠ .completed → c.error = some info →
    Closing f vs c now [runEvent .flowError c [("error", .value info)] now]
  | silent {v : Visit σ} {fault own : Fault} : c.Unclosed → vs.getLast? = some v →
    v.Raises f fault → fault.spoken = .error own → Closing f vs c now []

variable {x : Executor σ} {f : Flow} {c c₀ c' : Context} {w w' w'' : World σ} {s : Step}
  {current : String}

theorem NotesOn.of_work {made : List Call} {notes : List Event} {P : Request → Prop}
    (h : (x.around s f c).Work P (Handler.notes s.action) made notes) : x.NotesOn s f c notes where
  length := by
    have hlength := h.length
    unfold Handler.notes at hlength
    split at hlength <;> omega
  noted hnotes := by
    constructor
    · cases hthinking : x.config.emitThinking with
      | true => rfl
      | false => exact absurd (h.silent hthinking) hnotes
    · have hlength := h.length
      have hpositive := List.length_pos_iff.2 hnotes
      unfold Handler.notes at hlength
      split at hlength
      · next haction => simp [haction]
      · next haction => simp [haction]
      · next haction => simp [haction]
      · omega
      · omega
      · omega
  notes := h.notes

/-- An execution tells that it starts, what is noted, and that the result is a failure if it is. -/
theorem told_execute (hbuiltIn : x.actions.BuiltIn) (hw : w.Open) {result : Except Fault StepResult}
    (h : x.execute s f c w = (result, w')) :
    ∃ made notes, x.NotesOn s f c notes ∧ w.Progress made
      (startEvent c s w.now :: notes ++ (result.toOption.map fun r =>
        errorEvents c s r w.now).getD []) w' := by
  obtain ⟨w₁, o, w₂, hstart, ho, hsettled⟩ := execution hw h
  obtain ⟨made, notes, hprogress, hwork⟩ := work_outcome (bounded_of_builtIn hbuiltIn s c) f w₁
  rw [ho] at hprogress
  have hbefore := (hw.progress_emit hstart).trans hprogress
  rw [List.nil_append, List.singleton_append] at hbefore
  refine ⟨made, notes, .of_work hwork, ?_⟩
  cases hsettled with
  | raised => exact (List.append_nil _).symm ▸ hbefore
  | unsettled => exact (List.append_nil _).symm ▸ hbefore
  | succeeded _ hfailed =>
    simpa [Except.toOption, errorEvents, hfailed] using hbefore
  | failed _ hfailed htold =>
    have hall := hbefore.trans htold
    rw [hbefore.now, List.append_nil] at hall
    simpa [Except.toOption, errorEvents, hfailed] using hall

/-- The same of a visit, which executes a step with its configuration as that reads by then. -/
theorem told_visit (hbuiltIn : x.actions.BuiltIn) (hw : w.Open) {result : Except Fault StepResult}
    (h : x.execute (x.present w s) f c w = (result, w')) :
    ∃ made notes, x.NotesOn s f c notes ∧ w.Progress made
      (startEvent c s w.now :: notes ++ (result.toOption.map fun r =>
        errorEvents c s r w.now).getD []) w' := by
  obtain ⟨made, notes, hnotes, hprogress⟩ := told_execute hbuiltIn hw h
  exact ⟨made, notes, ⟨hnotes.length, hnotes.noted, fun e he => have hnote := hnotes.notes e he
    ⟨hnote.kind, hnote.flowId, hnote.sessionId, hnote.stepId⟩⟩, hprogress⟩

theorem SameIds.startEvent (h : SameIds c₀ c) (s : Step) (now : Moment) :
    startEvent c s now = Executor.startEvent { c₀ with currentIndex := c.currentIndex } s now := by
  unfold Executor.startEvent stepEvent
  rw [h.flowId, h.sessionId]

theorem SameIds.errorEvents (h : SameIds c₀ c) (s : Step) (r : StepResult) (now : Moment) :
    errorEvents c s r now = Executor.errorEvents c₀ s r now := by
  unfold Executor.errorEvents errorEvent stepEvent
  rw [h.flowId, h.sessionId]

theorem SameIds.completeEvent (h : SameIds c₀ c) (s : Step) (r : StepResult) (now : Moment) :
    completeEvent c s r now = Executor.completeEvent c₀ s r now := by
  unfold Executor.completeEvent runEvent
  rw [h.flowId, h.sessionId]

theorem SameIds.notesOn (h : SameIds c₀ c) {notes : List Event} (hnotes : x.NotesOn s f c notes) :
    x.NotesOn s f c₀ notes := by
  have haround : x.around s f c₀ = x.around s f c := by
    unfold around
    rw [h.sessionId]
  exact { hnotes with notes := haround ▸ hnotes.notes }

variable {left : Nat} {vs : List (Visit σ)} {v : Option (Visit σ)} {a : Advance}
  {out : Except Fault Unit × Context × World σ}

theorem Turn.sameIds (h : x.Turn f current c w v (a, c', w')) : SameIds c c' := by
  cases h <;> exact ⟨rfl, rfl⟩

theorem Course.sameIds (h : x.Course f left current c w vs out) : SameIds c out.2.1 := by
  induction h with
  | stopped hturn => exact hturn.sameIds
  | completed hturn => exact hturn.sameIds
  | limited hturn => exact hturn.sameIds
  | continued hturn _ ih => exact hturn.sameIds.trans ih

theorem Kept.told (hbuiltIn : x.actions.BuiltIn) (hw : w.Open) {r : StepResult}
    (h : x.Kept f current ⟨s, c, w, .ok r, w'⟩ r w'') :
    ∃ made notes, x.NotesOn s f c notes ∧ w.Progress made
      (startEvent c s w.now :: notes ++ errorEvents c s r w.now ++ [completeEvent c s r w.now])
        w'' := by
  obtain ⟨made, notes, hnotes, htold⟩ := told_visit hbuiltIn hw h.executed
  have hannounced := h.announced
  dsimp only at hannounced htold
  rw [htold.now] at hannounced
  have hall := htold.trans hannounced
  rw [List.append_nil] at hall
  exact ⟨made, notes, hnotes, hall⟩

theorem Kept.blocks (hbuiltIn : x.actions.BuiltIn) (hw : w.Open) (hids : SameIds c₀ c)
    {r : StepResult} (hkept : x.Kept f current ⟨s, c, w, .ok r, w'⟩ r w'') {told : List Event}
    {raised : Option Fault} (h : x.Blocks f c₀ w.now (c.currentIndex + 1) vs told raised) :
    ∃ made block, w.Progress made block w'' ∧
      x.Blocks f c₀ w.now c.currentIndex (⟨s, c, w, .ok r, w'⟩ :: vs) (block ++ told) raised := by
  obtain ⟨made, notes, hnotes, htold⟩ := hkept.told hbuiltIn hw
  refine ⟨made, _, htold, ?_⟩
  rw [hids.startEvent, hids.errorEvents, hids.completeEvent, List.append_assoc,
    List.singleton_append]
  exact .whole rfl (hids.notesOn hnotes) h

/-- The passes from a position on tell the blocks of their visits. Where one is cut short, the fault
ends the walk. -/
theorem Course.blocks (hbuiltIn : x.actions.BuiltIn) (hw : w.Open) (hids : SameIds c₀ c)
    (h : x.Course f left current c w vs out) :
    ∃ made told raised, w.Progress made told out.2.2 ∧
      x.Blocks f c₀ w.now c.currentIndex vs told raised ∧
      ∀ fault ∈ raised, out.1 = .error fault ∧ fault.kind? = none := by
  -- Along the passes: the index of the context is the position of the block that comes next.
  induction h with
  | @stopped _ _ _ _ _ _ _ fault hturn =>
    cases hturn with
    | cancelled => exact ⟨_, _, none, .refl _, .done _, by simp⟩
    | missing => exact ⟨_, _, none, .refl _, .done _, by simp⟩
    | raised _ _ hexecute =>
      obtain ⟨made, notes, hnotes, htold⟩ := told_visit hbuiltIn hw hexecute
      refine ⟨made, _, some fault, htold, ?_, ?_⟩
      · rw [hids.startEvent]
        simpa [Except.toOption] using Blocks.cut rfl (hids.notesOn hnotes)
      · rintro _ ⟨⟩
        exact ⟨rfl, kind?_of_execute hexecute⟩
    | cutOff hkept =>
      obtain ⟨made, block, hprogress, hblocks⟩ := hkept.blocks hbuiltIn hw hids (.done _)
      exact ⟨made, _, none, hprogress, List.append_nil block ▸ hblocks, by simp⟩
    | undecided hkept =>
      obtain ⟨made, block, hprogress, hblocks⟩ := hkept.blocks hbuiltIn hw hids (.done _)
      exact ⟨made, _, none, hprogress, List.append_nil block ▸ hblocks, by simp⟩
  | completed hturn =>
    cases hturn with
    | ended hkept =>
      obtain ⟨made, block, hprogress, hblocks⟩ := hkept.blocks hbuiltIn hw hids (.done _)
      exact ⟨made, _, none, hprogress, List.append_nil block ▸ hblocks, by simp⟩
  | limited hturn =>
    cases hturn with
    | went hkept =>
      obtain ⟨made, block, hprogress, hblocks⟩ := hkept.blocks hbuiltIn hw hids (.done _)
      exact ⟨made, _, none, hprogress, List.append_nil block ▸ hblocks, by simp⟩
  | continued hturn _ ih =>
    have hthrough := hturn.through hw
    cases hturn with
    | went hkept =>
      obtain ⟨more, told, raised, hmore, hblocks, hraised⟩ :=
        ih (hthrough.open hw) (hids.trans ⟨rfl, rfl⟩)
      obtain ⟨_, hbetween, -⟩ := hthrough
      rw [hbetween.now] at hblocks
      obtain ⟨made, block, hprogress, hall⟩ := hkept.blocks hbuiltIn hw hids hblocks
      exact ⟨_, _, raised, hprogress.trans hmore, hall, hraised⟩

namespace Blocks
variable {now : Moment} {position : Nat} {told : List Event} {raised : Option Fault}

theorem completed (h : x.Blocks f c now position vs told raised) :
    (told.filter fun e => e.kind == .stepComplete).map Event.stepId =
      (vs.filterMap Visit.executed?).map fun e => some e.1.id := by
  have none_of {notes : List Event} {s : Step} (hnotes : x.NotesOn s f c notes) :
      notes.filter (fun e => e.kind == .stepComplete) = [] := by
    apply List.filter_eq_nil_iff.2
    intro e he
    simp [(hnotes.notes e he).kind]
  have none_of_errors (s : Step) (r : StepResult) :
      (errorEvents c s r now).filter (fun e => e.kind == .stepComplete) = [] := by
    unfold errorEvents
    split
    · rfl
    · rfl
  induction h with
  | done => rfl
  | @cut _ v _ _ hraised hnotes =>
    rw [List.filter_cons_of_neg (by simp [startEvent, stepEvent]), none_of hnotes]
    simp [Visit.executed?_of_error hraised]
  | @whole _ v _ r _ _ _ hreturned hnotes _ ih =>
    rw [List.cons_append, List.cons_append,
      List.filter_cons_of_neg (by simp [startEvent, stepEvent]),
      List.filter_append, List.filter_append, none_of hnotes, none_of_errors,
      List.filter_cons_of_pos (by simp [completeEvent, runEvent]),
        List.filterMap_cons_some (Visit.executed?_of_ok hreturned)]
    exact congrArg (some v.step.id :: ·) ih

theorem ofRun (h : x.Blocks f c now position vs told raised) : ∀ e ∈ told, OfRun f c e := by
  have of_note {notes : List Event} {s : Step} (hnotes : x.NotesOn s f c notes) : ∀ e ∈ notes,
      OfRun f c e := by
    intro e he
    exact ⟨(hnotes.notes e he).sessionId, fun _ => (hnotes.notes e he).flowId⟩
  induction h with
  | done => simp
  | cut hraised hnotes => exact List.forall_mem_cons.2 ⟨⟨rfl, congrArg some⟩, of_note hnotes⟩
  | whole hreturned hnotes _ ih =>
    have herrors (s : Step) (r : StepResult) : ∀ e ∈ errorEvents c s r now, OfRun f c e := by
      unfold errorEvents
      split
      · exact List.forall_mem_singleton.2 ⟨rfl, congrArg some⟩
      · simp
    refine List.forall_mem_append.2 ⟨List.forall_mem_append.2 ⟨?_, herrors _ _⟩, ?_⟩
    · exact List.forall_mem_cons.2 ⟨⟨rfl, congrArg some⟩, of_note hnotes⟩
    · exact List.forall_mem_cons.2 ⟨⟨rfl, congrArg some⟩, ih⟩

end Blocks

theorem closing_closed {result : Except Fault Unit} (htold : Tellable result) (f : Flow)
    (vs : List (Visit σ)) (c : Context) (now : Moment) :
    Closing f vs (c.closed now result) now (closingEvents (c.closed now result) now result) := by
  rw [htold.closingEvents]
  cases result with
  | ok _ => exact .completed rfl
  | error fault =>
    obtain ⟨text, hspoken⟩ := htold.spoken
    have hterminal := isTerminal_stateAfter fault
    rw [c.closed_of_spoken now hspoken]
    refine .failed hterminal ?_ rfl
    dsimp only
    unfold stateAfter
    split
    · simp
    · simp

theorem SameIds.ofRun_closing (h : SameIds c₀ c) (now : Moment) (result : Except Fault Unit) :
    ∀ e ∈ closingEvents c now result, OfRun f c₀ e := by
  have hsession : (some c.sessionId) = some c₀.sessionId := congrArg some h.sessionId
  have hflow (hc : c₀.flowId = f.id) : (some c.flowId) = some f.id :=
    congrArg some (h.flowId.trans hc)
  unfold closingEvents
  split
  · exact List.forall_mem_singleton.2 ⟨hsession, hflow⟩
  · split
    · exact List.forall_mem_singleton.2 ⟨hsession, hflow⟩
    · simp

/-- A run tells that it departs, then one block of events for each visit, and then how it ends. -/
theorem run_tells_blocks (hsteps : f.steps ≠ []) (hfresh : c.Fresh) (hw : w.TakesEvents)
    (hbuiltIn : x.actions.BuiltIn) :
    let out := x.run f c w
    ∃ told ending raised, out.2.2.emitted = w.emitted ++ (departEvent c w.now :: told ++ ending) ∧
      x.Blocks f c w.now 0 (x.visits f c w) told raised ∧
      Closing f (x.visits f c w) out.2.1 w.now ending ∧
      (∀ fault ∈ raised, fault.kind? = none ∧ ∀ text, fault.spoken = .ok text →
        out.1 = .error fault ∧ out.2.1.state = .failed ∧ out.2.1.error =
          some (.record fault.report)) ∧
      (told.filter fun e => e.kind == .stepComplete).map Event.stepId = out.2.1.history.map some ∧
      ∀ e ∈ departEvent c w.now :: told ++ ending, OfRun f c e := by
  obtain ⟨start, hstart⟩ := Flow.start_of_steps hsteps
  obtain ⟨c₁, w₁, out, w₂, hran⟩ := ran (x := x) hstart hfresh hw
  have hids : SameIds c c₁ := by
    rw [hran.context]
    exact ⟨rfl, rfl⟩
  obtain ⟨made, told, raised, hprogress, hblocks, hraised⟩ :=
    hran.course.blocks hbuiltIn hran.opened hids
  have hindex : c₁.currentIndex = 0 := by
    rw [hran.context]
    exact hfresh.currentIndex
  have hbefore : w₁.now = w.now := hran.departed.now
  have hafter : out.2.2.now = w.now := hprogress.now.trans hbefore
  have hdepart : departEvent c₁ w.now = departEvent c w.now := by
    rw [hran.context]
    rfl
  have hall := (hran.departed.trans hprogress).trans hran.closing
  have hfinal : SameIds c (out.2.1.closed w.now out.1) := by
    obtain ⟨state, error, endTime, hclosed⟩ := out.2.1.closed_cases w.now out.1
    rw [hclosed]
    exact (hids.trans hran.course.sameIds).trans ⟨rfl, rfl⟩
  rw [hindex, hbefore] at hblocks
  rw [hafter, hdepart] at hall
  have hclosing : Closing f (x.visits f c w) (x.run f c w).2.1 w.now
      (closingEvents (out.2.1.closed w.now out.1) w.now out.1) := by
    rcases tellable_or_silent out.1 with htold | ⟨fault, own, hfault, hsilent⟩
    · rw [hran.run, hafter]
      exact closing_closed htold ..
    · obtain ⟨v, hlast, hv⟩ := hran.course.silent hfault hsilent
      rw [hfault, closingEvents_of_silent hsilent]
      exact .silent (hran.unclosed hfault hsilent) hlast hv hsilent
  have hhistory := hran.history
  have hrun := hran.run
  rw [hafter] at hrun
  rw [hrun] at hhistory hclosing ⊢
  refine ⟨told, _, raised, hall.emitted, hblocks, hclosing, ?_, ?_, ?_⟩
  · intro fault hfault
    obtain ⟨hresult, hkind⟩ := hraised fault hfault
    refine ⟨hkind, fun text hspoken => ?_⟩
    rw [hresult, Context.closed_of_spoken _ _ hspoken]
    exact ⟨(tellable_of_spoken hspoken).toldAs, by simp [stateAfter, hkind], rfl⟩
  · rw [hblocks.completed, hhistory, List.map_map]
    rfl
  · exact List.forall_mem_append.2 ⟨List.forall_mem_cons.2 ⟨⟨rfl, congrArg some⟩, hblocks.ofRun⟩,
      hfinal.ofRun_closing _ _⟩

/-- The third execution fails, and the fifth is not allowed. -/
theorem relay_tells_blocks :
    let out := counting.run Flow.relay (.new []) { memory := 0 }
    ∃ told ending raised, out.2.2.emitted = departEvent (.new []) .epoch :: told ++ ending ∧
      counting.Blocks Flow.relay (.new []) .epoch 0 (counting.visits Flow.relay (.new [])
        { memory := 0 }) told raised ∧
      Closing Flow.relay (counting.visits Flow.relay (.new []) { memory := 0 }) out.2.1 .epoch
        ending ∧ out.2.1.state = .failed ∧
      (told.filter fun e => e.kind == .stepComplete).map Event.stepId =
      [some "a", some "b", some "a", some "b"] := by
  intro out
  have hhistory : out.2.1.history = ["a", "b", "a", "b"] := by decide +kernel
  obtain ⟨told, ending, raised, hemitted, hblocks, hclosing, -, hcompleted, -⟩ :=
    run_tells_blocks (x := counting) (f := Flow.relay) (c := .new [])
      (w := { memory := 0 }) (by decide) (Context.fresh_new []) rfl ActionRegistry.builtIn_default
  refine ⟨told, ending, raised, hemitted, hblocks, hclosing, by decide +kernel, ?_⟩
  rw [hcompleted]
  exact congrArg (List.map some) hhistory

/-- Not every run tells that it departs and how it ends: the exchange may refuse the first, and what
cannot tell its text leaves out the second. -/
theorem not_every_run_tells_blocks :
    (¬∀ (x : Executor Unit) (f : Flow) (c : Context) (w : World Unit), f.steps ≠ [] → c.Fresh →
      x.actions.BuiltIn →
      ∃ told, (x.run f c w).2.2.emitted = w.emitted ++ departEvent c w.now :: told) ∧
    ¬∀ (x : Executor Unit) (f : Flow) (c : Context) (w : World Unit), f.steps ≠ [] → c.Fresh →
      w.TakesEvents →
      x.actions.BuiltIn → ∃ told last, (x.run f c w).2.2.emitted = w.emitted ++ (told ++ [last]) ∧
        (last.kind = .flowComplete ∨ last.kind = .flowError) := by
  constructor
  · intro h
    let x := lone 3 { outcome := .ok (.text "found") }
    obtain ⟨told, htold⟩ := h x Flow.relay (.new [])
      { memory := (), exchange := { bus := refusing .flowStart } } (by decide)
      (Context.fresh_new []) ActionRegistry.builtIn_default
    have hstart : Flow.relay.start = .ok "a" := rfl
    rw [run_refused hstart (Context.fresh_new []) (admit_refusing .flowStart)] at htold
    cases htold
  · intro h
    let x := lone 3 { outcome := .error (.textless "ValueError" "boom" (some "TypeError")) }
    obtain ⟨told, last, hemitted, hkind⟩ := h x Flow.relay (.new []) { memory := () } (by decide)
      (Context.fresh_new []) rfl ActionRegistry.builtIn_default
    have hlast : ((x.run Flow.relay (.new []) { memory := () }).2.2.emitted.getLast?.map
      Event.kind) = some .thinking := by
      decide +kernel
    rw [hemitted, ← List.append_assoc, List.getLast?_concat, Option.map_some] at hlast
    rcases hkind with hkind | hkind
    · cases hkind.symm.trans (Option.some.inj hlast)
    · cases hkind.symm.trans (Option.some.inj hlast)

end Executor
end StepFlow
