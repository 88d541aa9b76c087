import StepFlow.Proofs.Flow.Staffing
import StepFlow.Proofs.Flow.Transition
import StepFlow.Proofs.Run.Record
import StepFlow.Proofs.Run.Result

/-!
# The choice of a worker

Of the names for the worker of a step the first that is given has its way. It is kept in the result
of the step, whether or not there is such a worker.
-/
namespace StepFlow

def FirstGiven (names : List (Option String)) (name : String) : Prop :=
  ∃ before after, names = before ++ some name :: after ∧ name ≠ "" ∧ ∀ o ∈ before, o = none ∨
    o = some ""

theorem FirstGiven.cons {o : Option String} {names : List (Option String)} {name : String}
    (h : FirstGiven names name) (ho : given? o = none) : FirstGiven (o :: names) name := by
  obtain ⟨before, after, rfl, hname, hbefore⟩ := h
  refine ⟨o :: before, after, rfl, hname, List.forall_mem_cons.2 ⟨?_, hbefore⟩⟩
  cases o with
  | none => exact .inl rfl
  | some t => exact .inr (congrArg some (given?_eq_none_iff.1 ho t rfl))

theorem firstGiven_findSome? (names : List (Option String)) {last : String} (hlast : last ≠ "") :
    FirstGiven (names ++ [some last]) ((names.findSome? given?).getD last) := by
  induction names with
  | nil => exact ⟨[], [], rfl, hlast, by simp⟩
  | cons o names ih =>
    rw [List.findSome?_cons]
    cases hgiven : given? o with
    | some name =>
      obtain ⟨rfl, hname⟩ := given?_eq_some_iff.1 hgiven
      exact ⟨[], names ++ [some last], rfl, hname, by simp⟩
    | none => exact ih.cons hgiven

theorem FirstGiven.unique {names : List (Option String)} {name other : String}
    (h : FirstGiven names name) (hother : FirstGiven names other) : name = other := by
  have hfound {name : String} (h : FirstGiven names name) : names.findSome? given? = some name := by
    obtain ⟨before, after, rfl, hname, hbefore⟩ := h
    have hnone : before.findSome? given? = none := by
      rw [List.findSome?_eq_none_iff]
      intro o ho
      obtain rfl | rfl := hbefore o ho <;> rfl
    rw [List.findSome?_append, hnone, Option.none_or, List.findSome?_cons,
      given?_eq_some_iff.2 ⟨rfl, hname⟩]
  exact Option.some_inj.1 ((hfound h).symm.trans (hfound hother))

namespace Selector

theorem select_eq (sel : Selector) (s : Step) (f : Flow) :
    sel.select s f = (((sel.candidates s f).map Prod.snd).findSome? given?).getD
      sel.defaultWorker := by
  unfold select pick
  induction sel.candidates s f with
  | nil => rfl
  | cons candidate rest ih =>
    rw [List.findSome?_cons, List.map_cons, List.findSome?_cons]
    dsimp only
    cases given? candidate.2 with
    | none => exact ih
    | some name => rfl

theorem firstGiven_select {d : Staffing} {f : Flow} {c : Config} (h : d.Describes f c) (s : Step) :
    FirstGiven (d.names f.id s) ((ofConfig c).select s f) := by
  have hselect : (ofConfig c).select s f = ((d.rules f.id s).findSome? given?).getD
      c.defaultWorker := by
    have hsearch := h.preferred "search" (by simp)
    have hanalysis := h.preferred "analysis" (by simp)
    have hprimary := h.preferred "primary" (by simp)
    rw [select_eq]
    unfold candidates Staffing.rules ofConfig
    rw [h.inFlow, h.inSettings, ← hsearch, ← hanalysis, ← hprimary]
    cases s.action with
    | search => rfl
    | analyze => rfl
    | synthesize => rfl
    | compare => cases given? s.workerOverride <;> rfl
    | recommend => cases given? s.workerOverride <;> rfl
    | custom => cases given? s.workerOverride <;> rfl
  obtain ⟨hfallback, hnonempty⟩ := h.fallback
  rw [hselect, Staffing.names, hfallback]
  exact firstGiven_findSome? _ hnonempty

end Selector

namespace Executor
variable {σ : Type} {x : Executor σ} {f : Flow} {c : Context} {w w' : World σ} {s : Step}
  {r : StepResult}

theorem worker_of_execute (h : x.execute s f c w = (.ok r, w')) :
    r.worker = some (x.selector.select s f) := by
  obtain ⟨o, now, hr⟩ := applied_of_execute h
  have hend := StepResult.endOf_apply (r := x.begun s f now) rfl o
  rw [hr] at hend
  exact hend.worker

theorem worker_of_visit {v : Visit σ} (hv : v ∈ x.visits f c w) (hr : v.outcome = .ok r) :
    r.worker = some (x.selector.select v.step f) := by
  obtain ⟨p, -, hvisit⟩ := mem_visits hv
  obtain ⟨-, -, -, hexecute⟩ := visit?_eq_some hvisit
  rw [hr] at hexecute
  -- The choice of a worker does not look at the configuration.
  have hselect : x.selector.select (x.present p.world v.step) f = x.selector.select v.step f := rfl
  exact hselect ▸ worker_of_execute hexecute

/-- In every run each step gets the first worker that its flow and the settings name, and its result
says so. Nothing else in them has a say. -/
theorem run_names_workers {d : Staffing} {config : Config} (h : d.Describes f config)
    (hx : x.selector = .ofConfig config) (c : Context) (w : World σ) :
    (∀ v ∈ x.visits f c w, ∀ r, v.outcome = .ok r →
      ∃ name, r.worker = some name ∧ FirstGiven (d.names f.id v.step) name) ∧
    (c.Fresh → ∀ id r, (id, r) ∈ (x.run f c w).2.1.results → ∃ s ∈ f.steps, s.id = id ∧
      ∃ name, r.worker = some name ∧ FirstGiven (d.names f.id s) name) ∧
    ∀ (d' : Staffing) (f' : Flow) (config' : Config), d'.Describes f' config' → ∀ s,
      d'.names f'.id s = d.names f.id s → (Selector.ofConfig config').select s f' =
        x.selector.select s f := by
  have hvisited : ∀ v ∈ x.visits f c w, ∀ r, v.outcome = .ok r →
      ∃ name, r.worker = some name ∧ FirstGiven (d.names f.id v.step) name := by
    intro v hv r hr
    have hworker := worker_of_visit hv hr
    rw [hx] at hworker
    exact ⟨_, hworker, Selector.firstGiven_select h v.step⟩
  refine ⟨hvisited, fun hfresh id r hmem => ?_, fun d' f' config' h' s hnames => ?_⟩
  · obtain ⟨earlier, s, later, hpath, hid, -⟩ := (books_run hfresh).mem_results.1 hmem
    have hexecuted : (s, r) ∈ (x.visits f c w).filterMap Visit.executed? :=
      hpath ▸ List.mem_append_right _ List.mem_cons_self
    obtain ⟨v, hv, hsome⟩ := List.mem_filterMap.1 hexecuted
    obtain ⟨rfl, hr⟩ := Visit.executed?_eq_some_iff.1 hsome
    exact ⟨v.step, (Flow.step?_eq_some (isOf_of_visit hv hr).2).1, hid, hvisited v hv r hr⟩
  · have hother := Selector.firstGiven_select h' s
    rw [hnames] at hother
    rw [hx]
    exact hother.unique (Selector.firstGiven_select h s)

/-- The data of a flow whose preferences name a worker for searches in two ways, and none for
analyses. -/
def staffedData : Staffing where
  flow := [
    (.text "id", .text "staffed"),
    (.text "steps", .list [.record [("id", .text "a"), ("action", .text "search")]]),
    (.text "modelPreferences", .record [("search", .text "scout"), ("primary", .text "lead"),
      ("searchModel", .text "seeker"), ("analysis", .null)])]
  settings := []

def staffed : Flow where
  id := "staffed"
  steps := [{ id := "a", action := .search }]
  workerPreferences := [("search", "seeker"), ("primary", "lead")]

/-- The later name counts, though there are no workers at all. -/
theorem staffed_names_seeker :
    let x : Executor Unit := { workers := [], selector := .ofConfig {} }
    let c := (x.run staffed (.new []) { memory := () }).2.1
    staffedData.Describes staffed {} ∧
      (∀ id r, (id, r) ∈ c.results → ∃ s ∈ staffed.steps, s.id = id ∧
        ∃ name, r.worker = some name ∧ FirstGiven (staffedData.names "staffed" s) name) ∧
      c.results.map (fun e => e.2.worker) = [some "seeker"] := by
  intro x c
  have hdescribes : staffedData.Describes staffed {} := by
    refine ⟨⟨.null, rfl⟩, ?_, ⟨.null, rfl, rfl⟩⟩
    rintro _ _ ⟨⟩
    intro e he
    obtain ⟨field, -, rfl⟩ := List.mem_map.1 he
    exact ⟨field.1, rfl⟩
  exact ⟨hdescribes, (run_names_workers hdescribes rfl (.new []) { memory := () }).2.1
    (Context.fresh_new []), by decide +kernel⟩

end Executor
end StepFlow
