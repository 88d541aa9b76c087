import StepFlow.Proofs.Flow.References
import StepFlow.Proofs.Run.Shape

/-!
# The path of a run

Where nobody cancels it, a run follows the path of the transitions from its start step. It stops
where the path ends, at the limit of steps, at a step that is not declared, or where it cannot be
told how the path goes on, whichever comes first.
-/
namespace StepFlow

/-- The path of the transitions: from a place, through executed steps, to the place where it goes
on. A place is a step, the end, or the fault for which it cannot be told. -/
inductive Leads (f : Flow) :
    Except Fault (Option String) → List (Step × StepResult) → Except Fault (Option String) → Prop
  | nil (place : Except Fault (Option String)) : Leads f place [] place
  | cons {id : String} {s : Step} {r : StepResult} {path : List (Step × StepResult)}
      {stop : Except Fault (Option String)} : f.step? id = some s →
    Leads f (nextStep s r.status r.output f) path stop →
      Leads f (.ok (some id)) ((s, r) :: path) stop

namespace Leads
variable {f : Flow} {place stop : Except Fault (Option String)} {path : List (Step × StepResult)}

theorem head (h : Leads f place path stop) (hpath : 0 < path.length) :
    place = .ok (some path[0].1.id) := by
  cases h with
  | nil => cases hpath
  | cons hfound _ => rw [List.getElem_cons_zero, (Flow.step?_eq_some hfound).2]

theorem next (h : Leads f place path stop) (i : Nat) (hi : i + 1 < path.length) :
    nextStep path[i].1 path[i].2.status path[i].2.output f = .ok (some path[i + 1].1.id) := by
  induction h generalizing i with
  | nil => cases hi
  | cons hfound hrest ih =>
    have hi := Nat.lt_of_succ_lt_succ hi
    cases i with
    | zero => exact hrest.head hi
    | succ i => exact ih i hi

end Leads

namespace Executor
variable {σ : Type} {x : Executor σ} {f : Flow} {c : Context} {w : World σ}

def Returned (vs : List (Visit σ)) : Prop := ∀ v ∈ vs, ∃ r, v.outcome = .ok r

instance (vs : List (Visit σ)) : Decidable (Returned vs) :=
  decidable_of_iff (∀ v ∈ vs, v.outcome.toBool = true) <| by
    unfold Returned
    refine forall₂_congr fun v _ => ?_
    cases v.outcome <;> simp [Except.toBool]

theorem map_executed {vs : List (Visit σ)} (h : Returned vs) :
    vs.map Visit.executed? = (vs.filterMap Visit.executed?).map some := by
  induction vs with
  | nil => rfl
  | cons v vs ih =>
    obtain ⟨⟨r, hr⟩, hvs⟩ := List.forall_mem_cons.1 h
    have hv : v.executed? = some (v.step, r) := Visit.executed?_of_ok hr
    rw [List.map_cons, ih hvs, List.filterMap_cons_some hv, List.map_cons, hv]

theorem length_executed {vs : List (Visit σ)} (h : Returned vs) :
    (vs.filterMap Visit.executed?).length = vs.length := by
  have hlength := congrArg List.length (map_executed h)
  rw [List.length_map, List.length_map] at hlength
  exact hlength.symm

theorem map_step_executed {vs : List (Visit σ)} (h : Returned vs) :
    (vs.filterMap Visit.executed?).map Prod.fst = vs.map Visit.step := by
  induction vs with
  | nil => rfl
  | cons v vs ih =>
    obtain ⟨⟨r, hr⟩, hvs⟩ := List.forall_mem_cons.1 h
    rw [List.filterMap_cons_some (Visit.executed?_of_ok hr), List.map_cons, List.map_cons, ih hvs]

theorem map_id_executed {vs : List (Visit σ)} (h : Returned vs) :
    (vs.filterMap Visit.executed?).map (fun e => e.1.id) = vs.map fun v => v.step.id := by
  have hids := congrArg (List.map Step.id) (map_step_executed h)
  rw [List.map_map, List.map_map] at hids
  exact hids

/-- How a walk of so many steps at most ends, by its visits and the place where its path stops. -/
inductive Verdict (x : Executor σ) (f : Flow) (limit : Nat) (vs : List (Visit σ)) :
    Except Fault (Option String) → Except Fault Unit → Prop
  | completed : Returned vs → vs.length ≤ limit → Verdict x f limit vs (.ok none) (.ok ())
  | limited {id : String} : Returned vs → vs.length = limit →
    Verdict x f limit vs (.ok (some id)) (.error (.stepLimit f.id x.config.maxSteps id))
  | missing {id : String} : Returned vs → vs.length < limit → f.step? id = none →
    Verdict x f limit vs (.ok (some id)) (.error (.stepNotFound f.id id))
  | undecided (before : List (Visit σ)) {v : Visit σ} {r : StepResult} {fault : Fault} :
    vs = before ++ [v] →
    Returned before → vs.length ≤ limit → v.outcome = .ok r →
      nextStep v.step r.status r.output f = .error fault →
      Verdict x f limit vs (.error fault) (.error fault)
  | raised {id : String} (before : List (Visit σ)) {v : Visit σ} {fault : Fault} :
    vs = before ++ [v] →
    Returned before → vs.length ≤ limit → f.step? id = some v.step → v.outcome = .error fault →
      Verdict x f limit vs (.ok (some id)) (.error fault)

variable {limit left : Nat} {vs : List (Visit σ)} {stop : Except Fault (Option String)}
  {current : String} {out : Except Fault Unit × Context × World σ}

theorem Verdict.cons {v : Visit σ} {r : StepResult} {result : Except Fault Unit}
    (hv : v.outcome = .ok r) (h : x.Verdict f limit vs stop result) :
    x.Verdict f (limit + 1) (v :: vs) stop result := by
  have hreturned (hvs : Returned vs) : Returned (v :: vs) := List.forall_mem_cons.2 ⟨⟨r, hv⟩, hvs⟩
  cases h with
  | completed hvs hlength => exact .completed (hreturned hvs) (Nat.succ_le_succ hlength)
  | limited hvs hlength => exact .limited (hreturned hvs) (congrArg (· + 1) hlength)
  | missing hvs hlength hmissing =>
    exact .missing (hreturned hvs) (Nat.succ_lt_succ hlength) hmissing
  | undecided before hlast hbefore hlength hr hnext =>
    have hbefore : Returned (v :: before) := List.forall_mem_cons.2 ⟨⟨r, hv⟩, hbefore⟩
    exact .undecided (v :: before) (congrArg (v :: ·) hlast) hbefore
      (Nat.succ_le_succ hlength) hr hnext
  | raised before hlast hbefore hlength hfound hfault =>
    have hbefore : Returned (v :: before) := List.forall_mem_cons.2 ⟨⟨r, hv⟩, hbefore⟩
    exact .raised (v :: before) (congrArg (v :: ·) hlast) hbefore
      (Nat.succ_le_succ hlength) hfound hfault

theorem Verdict.length_le {result : Except Fault Unit} (h : x.Verdict f limit vs stop result) :
    vs.length ≤ limit := by
  cases h with
  | completed _ hle => exact hle
  | limited _ heq => exact Nat.le_of_eq heq
  | missing _ hlt _ => exact Nat.le_of_lt hlt
  | undecided _ _ _ hle _ _ => exact hle
  | raised _ _ _ hle _ _ => exact hle

theorem Verdict.tellable {place : Option String} {result : Except Fault Unit}
    (h : x.Verdict f limit vs (.ok place) result) (hreturned : Returned vs) : Tellable result := by
  cases h with
  | completed => exact tellable_ok
  | limited => exact tellable_of_spoken rfl
  | missing => exact tellable_of_spoken rfl
  | raised before hlast _ _ _ hfault =>
    obtain ⟨r, hr⟩ := hreturned _ (hlast ▸ List.mem_append_right _ List.mem_cons_self)
    cases hr.symm.trans hfault

/-- A course that nobody cancels follows the path of the transitions. -/
theorem Course.leads (h : x.Course f left current c w vs out) (hc : out.2.2.cancellation = none) :
    ∃ stop, Leads f (.ok (some current)) (vs.filterMap Visit.executed?) stop ∧
    x.Verdict f (left + 1) vs stop out.1 := by
  induction h with
  | stopped hturn =>
    cases hturn with
    | cancelled hcancelled => cases hcancelled.symm.trans hc
    | missing _ hmissing =>
      exact ⟨_, .nil _, .missing (by simp [Returned]) (Nat.succ_pos _) hmissing⟩
    | raised _ hfound _ =>
      exact ⟨_, .nil _, .raised [] rfl (by simp [Returned]) (Nat.succ_pos _) hfound rfl⟩
    | cutOff hkept hcancelled =>
      have hstays := hkept.announced.cancellation_stays hcancelled
      cases hstays.symm.trans hc
    | undecided hkept _ hnext =>
      refine ⟨_, .cons hkept.found ?_, .undecided [] rfl (by simp [Returned])
        (Nat.succ_pos _) rfl hnext⟩
      rw [hnext]
      exact .nil _
  | completed hturn =>
    cases hturn with
    | ended hkept _ hnext =>
      refine ⟨.ok none, .cons hkept.found ?_, .completed (by simp [Returned]) (Nat.succ_pos _)⟩
      rw [hnext]
      exact .nil _
  | limited hturn =>
    cases hturn with
    | went hkept _ hnext =>
      refine ⟨.ok (some _), .cons hkept.found ?_, .limited (by simp [Returned]) rfl⟩
      rw [hnext]
      exact .nil _
  | continued hturn _ ih =>
    cases hturn with
    | went hkept _ hnext =>
      obtain ⟨stop, hleads, hverdict⟩ := ih hc
      refine ⟨stop, .cons hkept.found ?_, hverdict.cons rfl⟩
      rw [hnext]
      exact hleads

/-- How a run ends that nobody cancels and whose executions all come to a result, by the place where
its path stops. -/
inductive Ends (x : Executor σ) (f : Flow) (path : List (Step × StepResult)) :
    Except Fault (Option String) → Except Fault Unit → RunState → Prop
  | completed : Ends x f path (.ok none) (.ok ()) .completed
  | limited {id : String} : path.length = x.config.maxSteps →
    Ends x f path (.ok (some id)) (.error (.stepLimit f.id x.config.maxSteps id)) .failed
  | missing {id : String} : path.length < x.config.maxSteps → f.step? id = none →
    Ends x f path (.ok (some id)) (.error (.stepNotFound f.id id)) .failed
  | undecided {fault : Fault} {text : String} : fault.kind? = none → fault.spoken = .ok text →
    Ends x f path (.error fault) (.error fault) .failed
  /-- The fault cannot tell its text, and the failure to tell it takes its place. -/
  | untold {fault own : Fault} : fault.spoken = .error own →
    Ends x f path (.error fault) (.error own) .running

theorem Ran.ends {start : String} {c₁ : Context} {w₁ w₂ : World σ}
    (h : x.Ran f c w start c₁ w₁ out w₂) (hlimit : 1 ≤ x.config.maxSteps)
    (hreturned : Returned (x.visits f c w))
    (hverdict : x.Verdict f (x.config.maxSteps.toNat - 1 + 1) (x.visits f c w) stop out.1) :
    x.Ends f ((x.visits f c w).filterMap Visit.executed?) stop (x.run f c w).1
      (x.run f c w).2.1.state := by
  have hlength := length_executed hreturned
  have hnat : ((x.config.maxSteps.toNat - 1 + 1 : Nat) : Int) = x.config.maxSteps := by omega
  cases stop with
  | ok place =>
    have htold : Tellable out.1 := hverdict.tellable hreturned
    rw [h.result, htold.toldAs, h.state htold]
    generalize out.1 = result at hverdict ⊢
    cases hverdict with
    | completed => exact .completed
    | limited _ heq => exact .limited (by omega)
    | missing _ hlt hmissing => exact .missing (by omega) hmissing
    | raised before hlast _ _ _ hfault =>
      obtain ⟨r, hr⟩ := hreturned _ (hlast ▸ List.mem_append_right _ List.mem_cons_self)
      cases hr.symm.trans hfault
  | error fault =>
    generalize hresult : out.1 = result at hverdict
    cases hverdict with
    | undecided _ _ _ _ _ hnext =>
      cases hspoken : fault.spoken with
      | ok text =>
        have htold : Tellable out.1 := hresult ▸ tellable_of_spoken hspoken
        have hkind := kind?_of_nextStep hnext
        rw [h.result, htold.toldAs, h.state htold, hresult]
        dsimp only
        rw [stateAfter, hkind]
        exact .undecided hkind hspoken
      | error own =>
        rw [h.result, hresult, toldAs_of_silent hspoken, (h.unclosed hresult hspoken).state]
        exact .untold hspoken

/-- A run that nobody cancels follows the path of the transitions from the start step and ends where
this says. -/
theorem run_follows_path (hsteps : f.steps ≠ []) (hlimit : 1 ≤ x.config.maxSteps) (hfresh : c.Fresh)
    (hw : w.TakesEvents) (hreturned : Returned (x.visits f c w))
    (huncancelled : (x.run f c w).2.2.cancellation = none) :
    ∃ start path stop, f.start = .ok start ∧ (x.visits f c w).map Visit.executed? = path.map some ∧
      (x.run f c w).2.1.history = path.map (fun e => e.1.id) ∧
      Leads f (.ok (some start)) path stop ∧
      (∀ i (hi : i + 1 < path.length),
        nextStep path[i].1 path[i].2.status path[i].2.output f = .ok (some path[i + 1].1.id)) ∧
      path.length ≤ x.config.maxSteps ∧ x.Ends f path stop (x.run f c w).1 (x.run f c w).2.1.state ∧
      ((∀ e ∈ x.actions, ∃ a, e.2 = Handler.builtin a) → ∀ v ∈ x.visits f c w, v.calls.length ≤ 1) ∧
      (x.run f c w).2.2.calls = w.calls ++ (x.visits f c w).flatMap Visit.calls := by
  obtain ⟨start, hstart⟩ := Flow.start_of_steps hsteps
  obtain ⟨c₁, w₁, out, w₂, hran⟩ := ran (x := x) hstart hfresh hw
  obtain ⟨stop, hleads, hverdict⟩ := hran.course.leads (hran.cancellation_after ▸ huncancelled)
  have hlength := length_executed hreturned
  have hcount := hverdict.length_le
  refine ⟨start, _, stop, hstart, map_executed hreturned, hran.history, hleads,
    hleads.next, by omega, hran.ends hlimit hreturned hverdict, ?_, hran.calls⟩
  intro hbuiltin v hv
  refine (hran.course.proper hran.opened v hv).length_calls ?_
  intro e he i context
  obtain ⟨a, ha⟩ := hbuiltin e he
  rw [ha]
  exact Handler.asksAtMost_builtin a i context

theorem round_follows_path :
    let x := lone 3 { outcome := .ok (.text "found") }
    let (result, c, _) := x.run Flow.round (.new []) { memory := () }
    ∃ path stop, c.history = path.map (fun e => e.1.id) ∧
      Leads Flow.round (.ok (some "a")) path stop ∧
      (path.length : Int) ≤ 3 ∧ x.Ends Flow.round path stop result c.state := by
  obtain ⟨start, path, stop, hstart, -, hhistory, hleads, -, hlength, hends, -⟩ :=
    run_follows_path (x := lone 3 { outcome := .ok (.text "found") })
      (f := Flow.round) (c := .new [])
      (w := { memory := () }) (by decide) (by decide) (Context.fresh_new []) rfl
        (by decide +kernel) (by decide +kernel)
  cases hstart
  exact ⟨path, stop, hhistory, hleads, hlength, hends⟩

def seeking : Flow where
  id := "seeking"
  steps := [{ id := "a", action := .synthesize, conditions := some { onNoResults := some "b" } },
    { id := "b", action := .synthesize }]

/-- Not every run stops at the end of its path, at the limit or at a missing step. Its start may not
even be told; and where results cannot be counted it cannot be told how the path goes on. -/
theorem not_every_run_follows_path :
    (¬∀ (x : Executor Unit) (f : Flow) (c : Context) (w : World Unit), f.steps ≠ [] →
      1 ≤ x.config.maxSteps →
      c.Fresh → Returned (x.visits f c w) → (x.run f c w).2.2.cancellation = none →
        (x.run f c w).2.1.state.isTerminal = true) ∧
    ¬∀ (x : Executor Unit) (f : Flow) (c : Context) (w : World Unit), f.steps ≠ [] →
      1 ≤ x.config.maxSteps →
      c.Fresh → w.TakesEvents → Returned (x.visits f c w) → (x.run f c w).2.2.cancellation = none →
        (x.run f c w).1 = .ok () ∨
          (∃ id, (x.run f c w).1 = .error (.stepLimit f.id x.config.maxSteps id)) ∨
          ∃ id, (x.run f c w).1 = .error (.stepNotFound f.id id) := by
  constructor
  · intro h
    let x := lone 3 { outcome := .ok (.text "found") }
    have hterminal := h x seeking (.new [])
      { memory := (), exchange := { bus := refusing .flowStart } } (by decide) (by decide)
      (Context.fresh_new []) (by decide +kernel) (by decide +kernel)
    have hstart : seeking.start = .ok "a" := rfl
    rw [run_refused hstart (Context.fresh_new []) (admit_refusing .flowStart)] at hterminal
    cases hterminal
  · intro h
    let x := lone 3 { outcome := .ok (.record [("results", .uncounted "boom")]) }
    have hstop : (x.run seeking (.new []) { memory := () }).1 =
        .error (.foreign "RuntimeError" (some "boom")) := by
      with_unfolding_all rfl
    rcases h x seeking (.new []) { memory := () } (by decide) (by decide)
      (Context.fresh_new []) rfl (by decide +kernel)
      (by decide +kernel) with hok | ⟨id, hlimited⟩ | ⟨id, hmissing⟩
    · cases hstop.symm.trans hok
    · cases hstop.symm.trans hlimited
    · cases hstop.symm.trans hmissing

end Executor
end StepFlow
