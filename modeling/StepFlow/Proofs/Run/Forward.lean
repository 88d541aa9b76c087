import Mathlib.Data.List.Chain
import StepFlow.Proofs.Run.Declared
import StepFlow.Proofs.Run.Path

/-!
# Flows without conditions

An id may be declared more than once, and then finds its last step. Where no step has conditions a
run still goes forward: every step that it executes stands behind the one before. So it comes to an
end within the limit, if this is not less than the number of steps.
-/
namespace StepFlow

namespace Flow

/-- No step has conditions. -/
def Plain (f : Flow) : Prop := ∀ s ∈ f.steps, s.conditions = none

variable {f : Flow} {s : Step} {id : String} {p : Nat}

/-- The step that follows stands behind, although its id may find a later one than that declared
next. -/
theorem Plain.forward (h : f.Plain) (hs : f.step? s.id = some s) (hp : f.indexOf? s.id = some p)
    {status : StepStatus} {output : Value} (hnext : nextStep s status output f = .ok (some id)) :
    ∃ q, f.indexOf? id = some q ∧ p < q := by
  rw [nextStep_of_none (h s (step?_eq_some hs).1), stepAfter?, hp, Option.bind_some] at hnext
  obtain ⟨u, hu, rfl⟩ := Option.map_eq_some_iff.1 (Except.ok.inj hnext)
  have hmem : u.id ∈ f.stepIds := List.mem_map_of_mem (List.mem_of_getElem? hu)
  obtain ⟨t, ht⟩ := Option.isSome_iff_exists.1 (isSome_step?.2 hmem)
  obtain ⟨q, hq, -, -, hlater, -⟩ := located_of_step? ht
  refine ⟨q, hq, Nat.lt_of_not_le fun hle => ?_⟩
  exact hlater (p + 1) u (by omega) hu rfl

def repeating : Flow where
  id := "repeating"
  steps := ["a", "b", "a", "c"].map fun id => { id, action := .synthesize }

end Flow

namespace Executor
variable {σ : Type} {x : Executor σ} {f : Flow} {c : Context} {w : World σ}

theorem positions_of_visits (h : f.Plain) :
    ∃ positions : List Nat, (x.visits f c w).map (fun v => f.indexOf? v.step.id) =
      positions.map some ∧ positions.Pairwise (· < ·) := by
  have hposition : ∀ v ∈ x.visits f c w, ∃ p, f.indexOf? v.step.id = some p := by
    intro v hv
    obtain ⟨p, hp, -⟩ := Flow.located_of_step? (found_of_visit hv)
    exact ⟨p, hp⟩
  refine ⟨(x.visits f c w).map fun v => (f.indexOf? v.step.id).getD 0, ?_, ?_⟩
  · rw [List.map_map]
    apply List.map_congr_left
    intro v hv
    obtain ⟨p, hp⟩ := hposition v hv
    simp [hp]
  · rw [← List.isChain_iff_pairwise, List.isChain_iff_getElem]
    intro k hk
    rw [List.length_map] at hk
    obtain ⟨p, hp⟩ := hposition _ (List.getElem_mem (Nat.lt_of_succ_lt hk))
    obtain ⟨r, -, hnext⟩ :=
      next_of_visits (List.getElem?_eq_getElem (Nat.lt_of_succ_lt hk)) (List.getElem?_eq_getElem hk)
    obtain ⟨q, hq, hlt⟩ :=
      h.forward (found_of_visit (List.getElem_mem (Nat.lt_of_succ_lt hk))) hp hnext
    simpa [hp, hq] using hlt

inductive Unlimited (vs : List (Visit σ)) (w : World σ) : Except Fault Unit → Prop
  | completed : Unlimited vs w (.ok ())
  | cancelled {reason : Option String} : w.cancellation = some reason →
    Unlimited vs w (.error (.cancelled reason))
  | raised {v : Visit σ} {fault : Fault} : v ∈ vs → v.outcome = .error fault → fault.kind? = none →
    Unlimited vs w (.error fault)

theorem Unlimited.ne_stepLimit {vs : List (Visit σ)} {result : Except Fault Unit}
    (h : Unlimited vs w result) (flow : String) (limit : Int) (id : String) :
    result ≠ .error (.stepLimit flow limit id) := by
  rintro rfl
  cases h with
  | raised _ _ hkind => cases hkind

theorem Unlimited.append {vs : List (Visit σ)} {result : Except Fault Unit}
    (h : Unlimited vs w result) (earlier : List (Visit σ)) :
    Unlimited (earlier ++ vs) w result := by
  cases h with
  | completed => exact .completed
  | cancelled hcancelled => exact .cancelled hcancelled
  | raised hv hfault hkind => exact .raised (List.mem_append_right earlier hv) hfault hkind

variable {left p : Nat} {current : String} {vs : List (Visit σ)}
  {out : Except Fault Unit × Context × World σ}

/-- A course is not limited that may make as many passes as there are steps from its position on. -/
theorem Course.unlimited (hplain : f.Plain) (h : x.Course f left current c w vs out)
    (hp : f.indexOf? current = some p) (hleft : f.steps.length ≤ p + (left + 1)) :
    Unlimited vs out.2.2 out.1 := by
  have hforward {current id : String} {p : Nat} {v : Visit σ} {r : StepResult} {w' : World σ}
      (hp : f.indexOf? current = some p) (hkept : x.Kept f current v r w')
      (hnext : nextStep v.step r.status r.output f = .ok (some id)) : ∃ q, f.indexOf? id = some q ∧
        p < q := by
    have hid := (Flow.step?_eq_some hkept.found).2
    exact hplain.forward (hid ▸ hkept.found) (hid ▸ hp) hnext
  -- By the passes: with each the position increases by one at least, and the passes that are left
  -- decrease by one.
  induction h generalizing p with
  | stopped hturn =>
    cases hturn with
    | cancelled hcancelled => exact .cancelled hcancelled
    | missing _ hmissing =>
      obtain ⟨s, hs, -⟩ := Flow.located_of_indexOf? hp
      cases hs.symm.trans hmissing
    | raised _ _ hexecute => exact .raised List.mem_cons_self rfl (kind?_of_execute hexecute)
    | cutOff hkept hcancelled => exact .cancelled (hkept.announced.cancellation_stays hcancelled)
    | undecided hkept _ hnext =>
      have hc := hplain _ (Flow.step?_eq_some hkept.found).1
      cases (nextStep_of_none hc _ _).symm.trans hnext
  | completed => exact .completed
  | limited hturn =>
    cases hturn with
    | went hkept _ hnext =>
      obtain ⟨q, hq, hlt⟩ := hforward hp hkept hnext
      obtain ⟨u, -, hu⟩ := Flow.located_of_indexOf? hq
      obtain ⟨hbound, -⟩ := List.getElem?_eq_some_iff.1 hu
      omega
  | continued hturn _ ih =>
    cases hturn with
    | went hkept _ hnext =>
      obtain ⟨q, hq, hlt⟩ := hforward hp hkept hnext
      exact (ih hq (by omega)).append _

/-- An id finds the last step that has it, and after it the step declared next. Where no step has
conditions, the positions of the steps that a run executes therefore increase, even where ids are
repeated. From a declared start a limit not less than the number of steps does not stop the run: it
completes if it is not cancelled and every execution comes to a result. -/
theorem run_goes_forward (f : Flow) (x : Executor σ) (c : Context) (w : World σ) :
    (∀ id, f.Located id (f.indexOf? id) (f.step? id) (f.stepAfter? id)) ∧
    ((∀ s ∈ f.steps, s.conditions = none) →
      (∀ v ∈ x.visits f c w, f.step? v.step.id = some v.step) ∧
      (∃ positions : List Nat, (x.visits f c w).map (fun v => f.indexOf? v.step.id) =
        positions.map some ∧ positions.Pairwise (· < ·)) ∧
      ∀ start, f.start = .ok start → start ∈ f.stepIds → c.Fresh → w.TakesEvents →
        f.steps.length ≤ x.config.maxSteps →
        (∀ id, (x.run f c w).1 ≠ .error (.stepLimit f.id x.config.maxSteps id)) ∧
        (Returned (x.visits f c w) → (x.run f c w).2.2.cancellation = none →
          (x.run f c w).1 = .ok () ∧ (x.run f c w).2.1.state = .completed)) := by
  refine ⟨f.located, fun hplain => ⟨fun v => found_of_visit, positions_of_visits hplain, ?_⟩⟩
  intro start hstart hdeclared hfresh hw hlimit
  obtain ⟨c₁, w₁, out, w₂, hran⟩ := ran (x := x) hstart hfresh hw
  obtain ⟨s, hs⟩ := Option.isSome_iff_exists.1 (Flow.isSome_step?.2 hdeclared)
  obtain ⟨p, hp, -⟩ := Flow.located_of_step? hs
  have hunlimited := hran.course.unlimited hplain hp (by omega)
  refine ⟨fun id hresult => ?_, fun hreturned huncancelled => ?_⟩
  · rw [hran.result] at hresult
    rcases eq_of_toldAs hresult with hlimited | hkind
    · exact hunlimited.ne_stepLimit f.id _ id hlimited
    · cases hkind
  · have hok : out.1 = .ok () := by
      generalize out.1 = result at hunlimited ⊢
      cases hunlimited with
      | completed => rfl
      | cancelled hcancelled =>
        rw [← hran.cancellation_after, huncancelled] at hcancelled
        cases hcancelled
      | raised hv hfault _ =>
        obtain ⟨r, hr⟩ := hreturned _ hv
        cases hr.symm.trans hfault
    have htold : Tellable out.1 := hok ▸ tellable_ok
    rw [hran.result, hran.state htold, htold.toldAs, hok]
    exact ⟨rfl, rfl⟩

/-- The start is the first step, but its id finds the third. -/
theorem repeating_goes_forward :
    let x := lone 4 { outcome := .error (.foreign "ValueError" (some "refused")) }
    let (result, c, _) := x.run Flow.repeating (.new []) { memory := () }
    result = .ok () ∧ c.state = .completed ∧ c.history = ["a", "c"] ∧
      c.history.map Flow.repeating.indexOf? = [some 2, some 3] := by
  intro x
  have hplain : ∀ s ∈ Flow.repeating.steps, s.conditions = none := by decide +kernel
  obtain ⟨-, hrun⟩ := run_goes_forward Flow.repeating x (.new []) { memory := () }
  obtain ⟨-, -, hends⟩ := hrun hplain
  obtain ⟨-, hcompletes⟩ := hends "a" rfl (by decide) (Context.fresh_new []) rfl (by decide)
  have hcompleted := hcompletes (by decide +kernel) (by decide +kernel)
  have hvisited : let c := (x.run Flow.repeating (.new []) { memory := () }).2.1
      c.history = ["a", "c"] ∧ c.history.map Flow.repeating.indexOf? = [some 2, some 3] := by
    decide +kernel
  generalize x.run Flow.repeating (.new []) { memory := () } = out at hcompleted hvisited ⊢
  exact ⟨hcompleted.1, hcompleted.2, hvisited⟩

/-- A run whose start cannot be told does not go anywhere. -/
theorem not_every_run_goes_forward :
    ¬∀ (f : Flow) (x : Executor Unit) (c : Context) (w : World Unit) (start : String),
      f.steps ≠ [] →
      (∀ s ∈ f.steps, s.conditions = none) → f.start = .ok start → start ∈ f.stepIds → c.Fresh →
        f.steps.length ≤ x.config.maxSteps → Returned (x.visits f c w) →
          (x.run f c w).2.2.cancellation = none → (x.run f c w).2.1.state = .completed := by
  intro h
  let x := lone 4 { outcome := .ok (.text "found") }
  have hstate := h Flow.repeating x (.new [])
    { memory := (), exchange := { bus := refusing .flowStart } } "a" (by decide) (by decide +kernel)
    rfl (by decide) (Context.fresh_new []) (by decide) (by decide +kernel) (by decide +kernel)
  have hstart : Flow.repeating.start = .ok "a" := rfl
  rw [run_refused hstart (Context.fresh_new []) (admit_refusing .flowStart)] at hstate
  cases hstate

end Executor
end StepFlow
