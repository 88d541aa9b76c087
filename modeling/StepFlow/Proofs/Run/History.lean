import StepFlow.Proofs.Run.Course
import StepFlow.Proofs.Table

/-!
# The history of a run

What a run keeps of the steps that it executes, whether or not its events can be emitted. The
history names them in order, and the result that is kept of a step is that of its latest execution.
-/
namespace StepFlow

def latest? (path : List (Step × StepResult)) (id : String) : Option StepResult :=
  (path.reverse.find? fun e => e.1.id == id).map Prod.snd

theorem latest?_concat (path : List (Step × StepResult)) (s : Step) (r : StepResult) (id : String) :
    latest? (path ++ [(s, r)]) id = if s.id = id then some r else latest? path id := by
  unfold latest?
  rw [List.reverse_append, List.reverse_singleton, List.singleton_append, List.find?_cons]
  by_cases h : s.id = id
  · rw [beq_iff_eq.2 h, if_pos h]
    rfl
  · rw [beq_eq_false_iff_ne.2 h, if_neg h]

theorem latest?_eq_some {path : List (Step × StepResult)} {id : String} {r : StepResult} :
    latest? path id = some r ↔
      ∃ earlier s later, path = earlier ++ (s, r) :: later ∧ s.id = id ∧
      ∀ e ∈ later, e.1.id ≠ id := by
  unfold latest?
  rw [Option.map_eq_some_iff]
  constructor
  · rintro ⟨⟨s, r⟩, hfound, rfl⟩
    obtain ⟨hid, later, earlier, hpath, hlater⟩ := List.find?_eq_some_iff_append.1 hfound
    refine ⟨earlier.reverse, s, later.reverse, ?_, by simpa using hid, ?_⟩
    · rw [← List.reverse_reverse path, hpath, List.reverse_append,
        List.reverse_cons, List.append_assoc, List.singleton_append]
    · intro e he
      simpa using hlater e (List.mem_reverse.1 he)
  · rintro ⟨earlier, s, later, rfl, hid, hlater⟩
    refine ⟨(s, r), List.find?_eq_some_iff_append.2 ⟨by simpa using hid, later.reverse,
      earlier.reverse, ?_, ?_⟩, rfl⟩
    · rw [List.reverse_append, List.reverse_cons, List.append_assoc, List.singleton_append]
    · intro e he
      simpa using hlater e (List.mem_reverse.1 he)

theorem Context.result?_keep (c : Context) (r : StepResult) (id : String) :
    (c.keep r).result? id = if r.stepId = id then some r else c.result? id := by
  unfold keep result?
  dsimp only
  split
  · next h => rw [← h, lookup_assign]
  · next h => exact lookup_assign_of_ne (Ne.symm h) _ _

theorem Context.keys_keep {c : Context} (h : c.results.map Prod.fst = c.history.eraseDups)
    (r : StepResult) :
    (c.keep r).results.map Prod.fst = (c.keep r).history.eraseDups := by
  unfold keep
  dsimp only
  rw [keys_assign, h, eraseDups_concat]
  simp

/-- A result that an execution of a step comes to: it is that of the step, and a success or a
loss. -/
structure StepResult.IsOf (r : StepResult) (s : Step) : Prop where
  stepId : r.stepId = s.id
  settled : r.status = .success ∨ r.Lost

theorem StepResult.IsOf.status {r : StepResult} {s : Step} (h : r.IsOf s) :
    r.status = .success ∨ r.status = .failed :=
  h.settled.imp_right Lost.status

theorem StepResult.IsOf.output_of_failed {r : StepResult} {s : Step} (h : r.IsOf s)
    (hfailed : r.status = .failed) :
    r.output = .null := by
  rcases h.settled with hsuccess | hlost
  · cases hsuccess.symm.trans hfailed
  · exact hlost.output

namespace Context
variable {c : Context} {path : List (Step × StepResult)}

/-- The context keeps book of a path: the history names its steps, and of each of these the latest
result is kept, in the order of the first visits. -/
structure Books (c : Context) (path : List (Step × StepResult)) : Prop where
  history : c.history = path.map fun e => e.1.id
  keys : c.results.map Prod.fst = c.history.eraseDups
  results : ∀ id, c.result? id = latest? path id
  ofSteps : ∀ e ∈ path, e.2.IsOf e.1

theorem Books.keep {s : Step} {r : StepResult} (h : c.Books path) (hr : r.IsOf s) :
    (c.keep r).Books (path ++ [(s, r)]) where
  history := by
    rw [List.map_append, ← h.history]
    exact congrArg (c.history ++ [·]) hr.stepId
  keys := keys_keep h.keys r
  results := by
    intro id
    rw [c.result?_keep, latest?_concat, hr.stepId, h.results]
  ofSteps := by
    intro e he
    rcases List.mem_append.1 he with he | he
    · exact h.ofSteps e he
    · rw [List.mem_singleton.1 he]
      exact hr

theorem Books.moveOn (h : c.Books path) (next : Option String) : (c.moveOn next).Books path :=
  { h with }

theorem Books.lastResult? (h : c.Books path) : c.lastResult? = path.getLast?.map Prod.snd := by
  unfold Context.lastResult?
  rw [h.history, List.getLast?_map]
  rcases List.eq_nil_or_concat path with rfl | ⟨before, ⟨s, r⟩, hpath⟩
  · rfl
  · rw [hpath, List.concat_eq_append]
    simp [h.results, hpath, latest?_concat]

end Context

def Advance.toward : Option String → Advance
  | some id => .next id
  | none => .complete

namespace Executor
variable {σ : Type} {x : Executor σ} {f : Flow} {c c' : Context} {w w' : World σ} {s : Step}
  {r : StepResult} {current id : String} {a : Advance}

theorem applied_of_execute (h : x.execute s f c w = (.ok r, w')) :
    ∃ (o : StepOutcome) (now : Moment), o.apply (x.begun s f now) = (.ok (), r) := by
  unfold execute at h
  split at h
  · cases h
  · split at h
    · cases h
    · next o _ _ =>
      split at h
      · cases h
      · next hr =>
        split at h
        · split at h
          · cases h
          · cases h
            exact ⟨o, _, hr⟩
        · cases h
          exact ⟨o, _, hr⟩

theorem returned_of_execute (h : x.execute s f c w = (.ok r, w')) : r.IsOf s := by
  obtain ⟨o, now, hr⟩ := applied_of_execute h
  obtain ⟨hid, ⟨v, -, hsuccess, -⟩ | hlost⟩ := StepOutcome.apply_begun_ok hr
  · exact ⟨hid, .inl hsuccess⟩
  · exact ⟨hid, .inr hlost⟩

theorem isOf_present : r.IsOf (x.present w s) ↔ r.IsOf s :=
  ⟨fun h => ⟨h.stepId, h.settled⟩, fun h => ⟨h.stepId, h.settled⟩⟩

theorem found_of_visit {v : Visit σ} (hv : v ∈ x.visits f c w) :
    f.step? v.step.id = some v.step := by
  obtain ⟨p, -, hvisit⟩ := mem_visits hv
  obtain ⟨-, -, hfound, -⟩ := visit?_eq_some hvisit
  have hid : v.step.id = p.current := (Flow.step?_eq_some hfound).2
  exact hid ▸ hfound

/-- The result of a visit is one to which its step can come, and the step is the one that its id
finds. -/
theorem isOf_of_visit {v : Visit σ} (hv : v ∈ x.visits f c w) (hr : v.outcome = .ok r) :
    r.IsOf v.step ∧ f.step? v.step.id = some v.step := by
  obtain ⟨p, -, hvisit⟩ := mem_visits hv
  obtain ⟨-, -, -, hexecute⟩ := visit?_eq_some hvisit
  rw [hr] at hexecute
  exact ⟨isOf_present.1 (returned_of_execute hexecute), found_of_visit hv⟩

theorem settleStep_context (hc : c.endTime = none) (h : settleStep f s r c w = (a, c', w')) :
    c' = c.keep r ∨ ∃ next, c' = (c.keep r).moveOn next := by
  unfold settleStep at h
  rw [c.record_eq hc] at h
  dsimp only at h
  split at h
  · cases h
    exact .inl rfl
  · split at h
    · cases h
      exact .inl rfl
    · split at h
      · cases h
        exact .inl rfl
      · cases h
        exact .inr ⟨_, rfl⟩
      · cases h
        exact .inr ⟨none, rfl⟩

/-- A settled step either stops the run or sends it where the transition rule says. -/
theorem settleStep_goes (h : settleStep f s r c w = (a, c', w')) :
    (∃ fault, a = .stop fault) ∨
      ∃ next, nextStep s r.status r.output f = .ok next ∧ a = .toward next ∧
      c' = (c.keep r).moveOn next := by
  unfold settleStep at h
  split at h
  · cases h
    exact .inl ⟨_, rfl⟩
  · next hrecord =>
    unfold Context.record at hrecord
    split at hrecord <;> cases hrecord
    split at h
    · cases h
      exact .inl ⟨_, rfl⟩
    · split at h
      · cases h
        exact .inl ⟨_, rfl⟩
      · split at h
        · cases h
          exact .inl ⟨_, rfl⟩
        · next id hnext =>
          cases h
          exact .inr ⟨some id, hnext, rfl, rfl⟩
        · next hnext =>
          cases h
          exact .inr ⟨none, hnext, rfl, rfl⟩

/-- A pass that is not stopped has made a visit, and goes where the transition rule says. -/
theorem visit_of_advance (h : x.advance f current c w = (a, c', w')) :
    (∃ fault, a = .stop fault) ∨
      ∃ s r w₁ next, x.visit? f ⟨current, c, w⟩ = some ⟨s, c, w, .ok r, w₁⟩ ∧
        f.step? current = some s ∧
        r.stepId = s.id ∧ nextStep s r.status r.output f = .ok next ∧ a = .toward next ∧
        c' = (c.keep r).moveOn next := by
  unfold advance at h
  split at h
  · cases h
    exact .inl ⟨_, rfl⟩
  · next hcheck =>
    split at h
    · cases h
      exact .inl ⟨_, rfl⟩
    · next s hs =>
      split at h
      · cases h
        exact .inl ⟨_, rfl⟩
      · next r w₁ hexecute =>
        rcases settleStep_goes h with hstop | ⟨next, hnext, hgoes, hc'⟩
        · exact .inl hstop
        · refine .inr ⟨s, r, w₁, next, ?_, hs, (returned_of_execute hexecute).stepId, hnext,
            hgoes, hc'⟩
          unfold visit?
          rw [hcheck, hs]
          dsimp only
          rw [hexecute]

theorem visit_of_next (h : x.advance f current c w = (.next id, c', w')) :
    ∃ s r w₁, x.visit? f ⟨current, c, w⟩ = some ⟨s, c, w, .ok r, w₁⟩ ∧
      f.step? current = some s ∧ r.stepId = s.id ∧
      nextStep s r.status r.output f = .ok (some id) ∧ c' = (c.keep r).moveOn (some id) := by
  rcases visit_of_advance h with ⟨_, hstop⟩ | ⟨s, r, w₁, next, hvisit, hs, hid, hnext, hgoes, hc'⟩
  · cases hstop
  · cases next with
    | none => cases hgoes
    | some id' =>
      cases hgoes
      exact ⟨s, r, w₁, hvisit, hs, hid, hnext, hc'⟩

theorem visit_of_complete (h : x.advance f current c w = (.complete, c', w')) :
    ∃ s r w₁, x.visit? f ⟨current, c, w⟩ = some ⟨s, c, w, .ok r, w₁⟩ ∧
      nextStep s r.status r.output f = .ok none := by
  rcases visit_of_advance h with ⟨_, hstop⟩ | ⟨s, r, w₁, next, hvisit, -, -, hnext, hgoes, -⟩
  · cases hstop
  · cases next with
    | none => exact ⟨s, r, w₁, hvisit, hnext⟩
    | some id' => cases hgoes

/-- The visits from a pass on: none, the last one, or one by whose result the run goes on. -/
theorem visitsOf_cases (left : Nat) (current : String) (c : Context) (w : World σ) :
    x.visitsOf f (x.passesFrom f left current c w) = [] ∨
      (∃ v, x.visitsOf f (x.passesFrom f left current c w) = [v] ∧ v.context = c ∧
        f.step? current = some v.step) ∨
      ∃ s r w₁ left' id c' w', left = left' + 1 ∧ f.step? current = some s ∧ r.stepId = s.id ∧
        nextStep s r.status r.output f = .ok (some id) ∧ c' = (c.keep r).moveOn (some id) ∧
        x.visitsOf f (x.passesFrom f left current c w) =
          ⟨s, c, w, .ok r, w₁⟩ :: x.visitsOf f (x.passesFrom f left' id c' w') := by
  rw [visitsOf_passesFrom]
  generalize hadvance : x.advance f current c w = advanced
  split
  · next id c' w' left' =>
    obtain ⟨s, r, w₁, hvisit, hs, hid, hnext, hc'⟩ := visit_of_next hadvance
    rw [hvisit]
    exact .inr (.inr ⟨s, r, w₁, left', id, c', w', rfl, hs, hid, hnext, hc', rfl⟩)
  · rw [List.append_nil]
    cases hvisit : x.visit? f ⟨current, c, w⟩ with
    | none => exact .inl rfl
    | some v =>
      obtain ⟨hcontext, -, hs, -⟩ := visit?_eq_some hvisit
      exact .inr (.inl ⟨v, rfl, hcontext, hs⟩)

/-- The first visit from a pass on is to the step that the pass is to find. -/
theorem step_of_first {left : Nat} {v : Visit σ}
    (hv : (x.visitsOf f (x.passesFrom f left current c w))[0]? = some v) :
    f.step? current = some v.step := by
  rcases visitsOf_cases (x := x) (f := f) left current c w with
    hnone | ⟨last, hlast, -, hs⟩ | ⟨s, r, w₁, left', id, c', w', -, hs, -, -, -, hvisits⟩
  · rw [hnone] at hv
    cases hv
  · rw [hlast] at hv
    cases hv
    exact hs
  · rw [hvisits] at hv
    cases hv
    exact hs

/-- After a visit another one follows only by its result, and to the step that the transition rule
names. -/
theorem next_of_visitsOf {left k : Nat} {v v' : Visit σ}
    (hv : (x.visitsOf f (x.passesFrom f left current c w))[k]? = some v)
    (hv' : (x.visitsOf f (x.passesFrom f left current c w))[k + 1]? = some v') :
    ∃ r, v.outcome = .ok r ∧ nextStep v.step r.status r.output f = .ok (some v'.step.id) := by
  -- By the passes that are left: the later visit is the first of the rest, or both of them are in
  -- the rest.
  induction left using Nat.strongRecOn generalizing current c w k with
  | ind left ih =>
    rcases visitsOf_cases (x := x) (f := f) left current c w with
      hnone | ⟨last, hlast, -⟩ | ⟨s, r, w₁, left', id, c', w', hleft, -, -, hnext, -, hvisits⟩
    · rw [hnone] at hv
      cases hv
    · rw [hlast] at hv'
      cases hv'
    · rw [hvisits] at hv hv'
      cases k with
      | zero =>
        cases hv
        have hid : v'.step.id = id := (Flow.step?_eq_some (step_of_first hv')).2
        exact ⟨r, rfl, hid ▸ hnext⟩
      | succ k => exact ih left' (by omega) hv hv'

theorem next_of_visits {k : Nat} {v v' : Visit σ} (hv : (x.visits f c w)[k]? = some v)
    (hv' : (x.visits f c w)[k + 1]? = some v') :
    ∃ r, v.outcome = .ok r ∧ nextStep v.step r.status r.output f = .ok (some v'.step.id) := by
  unfold visits passes at hv hv'
  generalize depart f c w.openEmitter = departed at hv hv'
  obtain ⟨start | start, c', w'⟩ := departed
  · cases hv
  · exact next_of_visitsOf hv hv'

/-- What a pass keeps: nothing if it stops without a result, or else the one result to which its
step comes. -/
theorem advance_keeps (hc : c.endTime = none) (h : x.advance f current c w = (a, c', w')) :
    (∃ fault, a = .stop fault) ∧ c' = c ∧
      (x.visit? f ⟨current, c, w⟩).toList.filterMap Visit.executed? = [] ∨
      ∃ s r, (x.visit? f ⟨current, c, w⟩).toList.filterMap Visit.executed? = [(s, r)] ∧ r.IsOf s ∧
        (c' = c.keep r ∨ ∃ next, c' = (c.keep r).moveOn next) := by
  unfold advance at h
  unfold visit?
  split at h
  · next hcheck =>
    cases h
    rw [hcheck]
    exact .inl ⟨⟨_, rfl⟩, rfl, rfl⟩
  · next hcheck =>
    rw [hcheck]
    split at h
    · next hs =>
      cases h
      rw [hs]
      exact .inl ⟨⟨_, rfl⟩, rfl, rfl⟩
    · next s hs =>
      rw [hs]
      dsimp only
      split at h
      · next hexecute =>
        cases h
        rw [hexecute]
        exact .inl ⟨⟨_, rfl⟩, rfl, rfl⟩
      · next r w₁ hexecute =>
        rw [hexecute]
        exact .inr ⟨s, r, rfl, isOf_present.1 (returned_of_execute hexecute),
          settleStep_context hc h⟩

structure SameIds (c₀ c : Context) : Prop where
  flowId : c.flowId = c₀.flowId
  sessionId : c.sessionId = c₀.sessionId

theorem SameIds.refl (c : Context) : SameIds c c := ⟨rfl, rfl⟩

theorem SameIds.trans {c₀ : Context} (h : SameIds c₀ c) (g : SameIds c c') : SameIds c₀ c' :=
  ⟨g.flowId.trans h.flowId, g.sessionId.trans h.sessionId⟩

theorem advance_invariant {P : Context → Prop} (hkeep : ∀ c r, P c → P (c.keep r))
    (hmove : ∀ c next, P c → P (c.moveOn next)) (hc : c.endTime = none)
    (h : x.advance f current c w = (a, c', w'))
    (hP : P c) : P c' := by
  rcases advance_keeps hc h with ⟨-, rfl, -⟩ | ⟨s, r, -, -, rfl | ⟨next, rfl⟩⟩
  · exact hP
  · exact hkeep c r hP
  · exact hmove _ next (hkeep c r hP)

theorem endTime_advance (hc : c.endTime = none) (h : x.advance f current c w = (a, c', w')) :
    c'.endTime = none :=
  advance_invariant (P := fun c => c.endTime = none) (fun _ _ hc => hc) (fun _ _ hc => hc) hc h hc

/-- What is preserved where a result is kept and where the context moves on is preserved by a
walk. -/
theorem walk_invariant {P : Context → Prop} (hkeep : ∀ c r, P c → P (c.keep r))
    (hmove : ∀ c next, P c → P (c.moveOn next)) (left : Nat) (current : String)
    (hc : c.endTime = none) (hP : P c) :
    P (x.walk f left current c w).2.1 := by
  fun_induction walk x f left current c w with
  | case1 left current c w fault c' w' hadvance =>
    exact advance_invariant hkeep hmove hc hadvance hP
  | case2 left current c w c' w' hadvance => exact advance_invariant hkeep hmove hc hadvance hP
  | case3 current c w id c' w' hadvance => exact advance_invariant hkeep hmove hc hadvance hP
  | case4 current c w id c' w' hadvance left ih =>
    exact ih (endTime_advance hc hadvance) (advance_invariant hkeep hmove hc hadvance hP)

theorem endTime_walk (left : Nat) (current : String) (hc : c.endTime = none) :
    (x.walk f left current c w).2.1.endTime = none :=
  walk_invariant (P := fun c => c.endTime = none) (fun _ _ hc => hc)
    (fun _ _ hc => hc) left current hc hc

theorem sameIds_walk (left : Nat) (current : String) (hc : c.endTime = none) :
    SameIds c (x.walk f left current c w).2.1 :=
  walk_invariant (P := SameIds c) (fun _ _ h => { h with }) (fun _ _ h =>
    { h with }) left current hc (.refl c)

theorem books_advance {path : List (Step × StepResult)} (hc : c.endTime = none)
    (hbooks : c.Books path) (h : x.advance f current c w = (a, c', w')) :
    c'.Books (path ++ (x.visit? f ⟨current, c, w⟩).toList.filterMap Visit.executed?) := by
  rcases advance_keeps hc h with ⟨-, rfl, hexecuted⟩ | ⟨s, r, hexecuted, hr, hc'⟩
  · rw [hexecuted, List.append_nil]
    exact hbooks
  · rw [hexecuted]
    rcases hc' with rfl | ⟨next, rfl⟩
    · exact hbooks.keep hr
    · exact (hbooks.keep hr).moveOn next

theorem books_walk {path : List (Step × StepResult)} (left : Nat) (current : String)
    (hc : c.endTime = none) (hbooks : c.Books path) :
    (x.walk f left current c w).2.1.Books
      (path ++ (x.visitsOf f (x.passesFrom f left current c w)).filterMap Visit.executed?) := by
  rw [visitsOf_passesFrom]
  fun_induction walk x f left current c w generalizing path with
  | case1 left current c w fault c' w' hadvance =>
    rw [hadvance, List.append_nil]
    exact books_advance hc hbooks hadvance
  | case2 left current c w c' w' hadvance =>
    rw [hadvance, List.append_nil]
    exact books_advance hc hbooks hadvance
  | case3 current c w id c' w' hadvance =>
    rw [hadvance, List.append_nil]
    exact books_advance hc hbooks hadvance
  | case4 current c w id c' w' hadvance left ih =>
    rw [hadvance]
    dsimp only
    rw [visitsOf_passesFrom, List.filterMap_append, ← List.append_assoc]
    exact ih (endTime_advance hc hadvance) (books_advance hc hbooks hadvance)

/-- A walk that comes to its end ends with a step after which the transition rule names no other. -/
theorem last_of_walk (left : Nat) (current : String) (h : (x.walk f left current c w).1 = .ok ()) :
    ∃ before v r, x.visitsOf f (x.passesFrom f left current c w) = before ++ [v] ∧
      v.outcome = .ok r ∧ nextStep v.step r.status r.output f = .ok none := by
  rw [visitsOf_passesFrom]
  fun_induction walk x f left current c w with
  | case1 => cases h
  | case2 left current c w c' w' hadvance =>
    obtain ⟨s, r, w₁, hvisit, hnext⟩ := visit_of_complete hadvance
    rw [hadvance, hvisit]
    exact ⟨[], ⟨s, c, w, .ok r, w₁⟩, r, rfl, rfl, hnext⟩
  | case3 => cases h
  | case4 current c w id c' w' hadvance left ih =>
    obtain ⟨before, v, r, hvisits, hr, hnext⟩ := ih h
    rw [hadvance]
    dsimp only
    rw [visitsOf_passesFrom, hvisits, ← List.append_assoc]
    exact ⟨_, v, r, rfl, hr, hnext⟩

theorem walk_of_close {result : Except Fault Unit} (h : (close result c w).1 = .ok ()) :
    result = .ok () := by
  cases result with
  | ok _ => rfl
  | error fault =>
    unfold close abort at h
    dsimp only at h
    split at h
    · cases h
    · split at h <;> cases h

theorem close_context (result : Except Fault Unit) (c : Context) (w : World σ) :
    ∃ state error endTime, (close result c w).2.1 = { c with state, error, endTime } := by
  have finished {c' : Context} {now : Moment} {state : RunState} {error : Option Value}
      (h : c.finish now state error = .ok c') : c' = { c with
        state, error, endTime := some now } := by
    unfold Context.finish at h
    split at h
    · cases h
    · split at h <;> cases h
      rfl
  cases result with
  | ok _ =>
    unfold close complete
    dsimp only
    split
    · exact ⟨c.state, c.error, c.endTime, rfl⟩
    · next hfinish => split <;> exact ⟨_, _, _, finished hfinish⟩
  | error fault =>
    unfold close abort
    dsimp only
    split
    · exact ⟨c.state, c.error, c.endTime, rfl⟩
    · cases hfinish : c.finish w.now (stateAfter fault) (some (.record fault.report)) with
      | error _ => split <;> exact ⟨c.state, c.error, c.endTime, rfl⟩
      | ok c' => split <;> exact ⟨_, _, _, finished hfinish⟩

end Executor
end StepFlow
