import StepFlow.Proofs.Flow.Acceptance
import StepFlow.Proofs.Run.Path

/-!
# Linear flows

A flow without conditions is linear: whatever the results are, each step is followed by the one
declared next. A run goes through the steps from its start on, each of them once, as far as the
limit lets it.
-/
namespace StepFlow

namespace Flow

/-- No step has conditions, and every id stands at one position. -/
structure Linear (f : Flow) : Prop where
  distinct : f.stepIds.Nodup
  plain : ∀ s ∈ f.steps, s.conditions = none

variable {f : Flow}

theorem Linear.nextStep (h : f.Linear) {i : Nat} (hi : i < f.steps.length) (status : StepStatus)
    (output : Value) :
    nextStep f.steps[i] status output f = .ok ((f.steps[i + 1]?).map Step.id) := by
  rw [nextStep_of_none (h.plain _ (List.getElem_mem hi)), stepAfter?_of_nodup h.distinct hi]

theorem WellReferenced.start_position {start : String} (h : f.WellReferenced)
    (hstart : f.start = .ok start) :
    ∃ p, f.indexOf? start = some p ∧ p < f.steps.length ∧
    (f.steps[p]?).map Step.id = some start := by
  obtain ⟨start', hstart', hdeclared⟩ :=
    start_declared h.steps ((wellReferenced_iff.1 h).2.2 ▸ danglingReferences_eq f)
  cases hstart.symm.trans hstart'
  obtain ⟨s, hs⟩ := Option.isSome_iff_exists.1 (isSome_step?.2 hdeclared)
  obtain ⟨p, hp, hfound⟩ := Option.bind_eq_some_iff.1 hs
  obtain ⟨hlt, -⟩ := List.getElem?_eq_some_iff.1 hfound
  refine ⟨p, hp, hlt, ?_⟩
  rw [hfound, Option.map_some, (step?_eq_some hs).2]

def chainData : Value := .record [
  ("id", .text "chain"),
  ("default_start_step", .text "b"),
  ("steps", .list (["a", "b", "c", "d"].map fun id => .record [("id", .text id),
    ("action", .text "synthesize")]))]

def chain : Flow where
  id := "chain"
  steps := ["a", "b", "c", "d"].map fun id => { id, action := .synthesize }
  defaultStart := some "b"

theorem parse_chain : Flow.parse chainData .null = .ok chain := rfl

end Flow

theorem Leads.linear {f : Flow} (hlinear : f.Linear) {p : Nat} {path : List (Step × StepResult)}
    {stop : Except Fault (Option String)}
    (h : Leads f (.ok ((f.steps[p]?).map Step.id)) path stop) :
    path.map Prod.fst = (f.steps.drop p).take path.length ∧
      stop = .ok ((f.steps[p + path.length]?).map Step.id) := by
  generalize hplace : (Except.ok ((f.steps[p]?).map Step.id) : Except Fault (Option String)) =
    place at h
  -- By the steps of the path, of which the first stands at the position `p`.
  induction h generalizing p with
  | nil place => exact ⟨rfl, hplace.symm⟩
  | @cons id s r path stop hfound hrest ih =>
    obtain ⟨s', hs', rfl⟩ := Option.map_eq_some_iff.1 (Except.ok.inj hplace)
    obtain ⟨hp, rfl⟩ := List.getElem?_eq_some_iff.1 hs'
    have hs : s = f.steps[p] :=
      Option.some.inj (hfound.symm.trans (Flow.step?_of_nodup hlinear.distinct hp))
    have hnext : .ok ((f.steps[p + 1]?).map Step.id) = nextStep s r.status r.output f := by
      rw [hs, hlinear.nextStep hp]
    obtain ⟨hpath, hstop⟩ := ih hnext
    constructor
    · rw [List.map_cons, hpath, hs, List.length_cons, List.drop_eq_getElem_cons hp,
        List.take_succ_cons]
    · rw [hstop, List.length_cons, Nat.add_assoc, Nat.add_comm 1]

namespace Executor
variable {σ : Type} {x : Executor σ} {f : Flow} {c : Context} {w : World σ}

/-- A walk along a linear flow ends at the end of the flow, or at the limit before it. -/
theorem Verdict.linear {limit p : Nat} {vs : List (Visit σ)} {result : Except Fault Unit}
    (hlinear : f.Linear) (hreturned : Returned vs) (hvisited : vs.length ≤ f.steps.length - p)
    (h : x.Verdict f limit vs (.ok ((f.steps[p + vs.length]?).map Step.id)) result) :
    vs.length = min limit (f.steps.length - p) ∧
      (result = .ok () ∧ f.steps.length - p ≤ limit ∨ ∃ s, f.steps[p + limit]? = some s ∧
        result = .error (.stepLimit f.id x.config.maxSteps s.id) ∧ limit < f.steps.length - p) := by
  generalize hstop : (Except.ok ((f.steps[p + vs.length]?).map Step.id) : Except Fault
    (Option String)) = stop at h
  cases h with
  | completed _ hle =>
    have hend : f.steps.length ≤ p + vs.length :=
      List.getElem?_eq_none_iff.1 (Option.map_eq_none_iff.1 (Except.ok.inj hstop))
    exact ⟨by omega, .inl ⟨rfl, by omega⟩⟩
  | limited _ hlimit =>
    obtain ⟨s, hs, rfl⟩ := Option.map_eq_some_iff.1 (Except.ok.inj hstop)
    have hlt : p + vs.length < f.steps.length := (List.getElem?_eq_some_iff.1 hs).1
    rw [hlimit] at hs hlt
    exact ⟨by omega, .inr ⟨s, hs, rfl, by omega⟩⟩
  | missing _ _ hmissing =>
    obtain ⟨s, hs, rfl⟩ := Option.map_eq_some_iff.1 (Except.ok.inj hstop)
    obtain ⟨hlt, rfl⟩ := List.getElem?_eq_some_iff.1 hs
    cases hmissing.symm.trans (Flow.step?_of_nodup hlinear.distinct hlt)
  | undecided => cases hstop
  | raised before hlast _ _ _ hfault =>
    obtain ⟨r, hr⟩ := hreturned _ (hlast ▸ List.mem_append_right _ List.mem_cons_self)
    cases hr.symm.trans hfault

/-- A run of an accepted flow without conditions executes the steps in the order in which they are
declared, from its start step on and each of them once, whatever their results are. It completes if
the limit lets it come to the last, and is stopped at the limit before the next one otherwise. -/
theorem run_goes_in_order {data knownAs : Value} (hparse : Flow.parse data knownAs = .ok f)
    (hplain : ∀ s ∈ f.steps, s.conditions = none) {m : Nat} (hlimit : x.config.maxSteps = m)
    (hm : 1 ≤ m) (hfresh : c.Fresh) (hw : w.TakesEvents) (hreturned : Returned (x.visits f c w))
    (huncancelled : (x.run f c w).2.2.cancellation = none) :
    ∃ start p, f.start = .ok start ∧ f.indexOf? start = some p ∧ p < f.steps.length ∧
      (x.visits f c w).map Visit.step = (f.steps.drop p).take m ∧
      (x.run f c w).2.1.history = ((f.steps.drop p).take m).map Step.id ∧
      (x.run f c w).2.1.history.Nodup ∧
      (x.run f c w).2.1.history.length = min m (f.steps.length - p) ∧
      ((x.run f c w).2.1.state = .completed ↔ f.steps.length - p ≤ m) ∧
      ((x.run f c w).1 = .ok () ↔ f.steps.length - p ≤ m) ∧
      (¬f.steps.length - p ≤ m → (x.run f c w).2.1.state = .failed ∧ ∃ s, f.steps[p + m]? = some s ∧
        (x.run f c w).1 = .error (.stepLimit f.id m s.id)) := by
  have hwell := Flow.wellReferenced_of_parse hparse
  have hlinear : f.Linear := ⟨hwell.distinct, hplain⟩
  obtain ⟨start, hstart⟩ := Flow.start_of_steps hwell.steps
  obtain ⟨p, hposition, hp, hplace⟩ := hwell.start_position hstart
  obtain ⟨c₁, w₁, out, w₂, hran⟩ := ran (x := x) hstart hfresh hw
  obtain ⟨stop, hleads, hverdict⟩ := hran.course.leads (hran.cancellation_after ▸ huncancelled)
  rw [← hplace] at hleads
  obtain ⟨hpath, rfl⟩ := hleads.linear hlinear
  have htold : Tellable out.1 := hverdict.tellable hreturned
  have hresult : (x.run f c w).1 = out.1 := hran.result.trans htold.toldAs
  have hstate := hran.state htold
  rw [map_step_executed hreturned, length_executed hreturned] at hpath
  rw [length_executed hreturned] at hverdict
  have hmade : (x.visits f c w).length ≤ f.steps.length - p := by
    have hlength := congrArg List.length hpath
    rw [List.length_map, List.length_take, List.length_drop] at hlength
    omega
  have hwalk : x.config.maxSteps.toNat - 1 + 1 = m := by omega
  rw [hwalk] at hverdict
  obtain ⟨hcount, hend⟩ := hverdict.linear hlinear hreturned hmade
  have hsteps : (x.visits f c w).map Visit.step = (f.steps.drop p).take m := by
    rw [hpath, List.take_eq_take_iff, List.length_drop]
    omega
  have hhistory : (x.run f c w).2.1.history = ((f.steps.drop p).take m).map Step.id := by
    rw [hran.history, map_id_executed hreturned, ← hsteps, List.map_map]
    rfl
  have hdistinct : (x.run f c w).2.1.history.Nodup := by
    have hsub := ((List.take_sublist m _).trans (List.drop_sublist p f.steps)).map Step.id
    rw [hhistory]
    exact hwell.distinct.sublist hsub
  have hlength : (x.run f c w).2.1.history.length = min m (f.steps.length - p) := by
    rw [hhistory, List.length_map, List.length_take, List.length_drop]
  refine ⟨start, p, hstart, hposition, hp, hsteps, hhistory, hdistinct, hlength, ?_⟩
  rcases hend with ⟨hok, hle⟩ | ⟨s, hs, herror, hlt⟩
  · rw [hok] at hresult hstate
    exact ⟨iff_of_true hstate hle, iff_of_true hresult hle, fun hnot => absurd hle hnot⟩
  · rw [herror] at hresult hstate
    have hfailed : (x.run f c w).2.1.state = .failed := hstate
    have hnot : ¬f.steps.length - p ≤ m := by omega
    refine ⟨iff_of_false (by simp [hfailed]) hnot, iff_of_false (by simp [hresult]) hnot,
      fun _ => ⟨hfailed, s, hs, ?_⟩⟩
    rw [hresult, hlimit]

/-- Of four steps a run from the second with a limit of two executes two, although they fail. -/
theorem chain_goes_in_order :
    let x := lone 2 { outcome := .error (.foreign "ValueError" (some "refused")) }
    let (result, c, _) := x.run Flow.chain (.new []) { memory := () }
    c.history = ["b", "c"] ∧ c.state = .failed ∧ result = .error (.stepLimit "chain" 2 "d") := by
  obtain ⟨start, p, hstart, hposition, -, -, hhistory, -, -, -, -, hlimited⟩ :=
    run_goes_in_order (x := lone 2 { outcome := .error (.foreign "ValueError" (some "refused")) })
      (f := Flow.chain)
      (c := .new []) (w := { memory := () }) Flow.parse_chain (by decide +kernel) rfl
        (by decide) (Context.fresh_new [])
      rfl (by decide +kernel) (by decide +kernel)
  cases hstart
  cases hposition
  obtain ⟨hstate, s, hs, herror⟩ := hlimited (by decide)
  cases hs
  exact ⟨hhistory, hstate, herror⟩

/-- A run whose start cannot be told does not go anywhere. -/
theorem not_every_run_goes_in_order :
    ¬∀ (x : Executor Unit) (data knownAs : Value) (f : Flow) (m : Nat)
      (c : Context) (w : World Unit),
      Flow.parse data knownAs = .ok f → (∀ s ∈ f.steps, s.conditions = none) →
        x.config.maxSteps = m → 1 ≤ m →
        c.Fresh → Returned (x.visits f c w) → (x.run f c w).2.2.cancellation = none → ∀ start p,
          f.start = .ok start → f.indexOf? start = some p → f.steps.length - p ≤ m →
            (x.run f c w).2.1.state = .completed := by
  intro h
  let x := lone 4 { outcome := .ok (.text "found") }
  have hstate := h x Flow.chainData .null Flow.chain 4 (.new [])
    { memory := (), exchange := { bus := refusing .flowStart } } Flow.parse_chain
    (by decide +kernel) rfl (by decide) (Context.fresh_new []) (by decide +kernel)
      (by decide +kernel) "b" 1 rfl rfl
    (by decide)
  have hstart : Flow.chain.start = .ok "b" := rfl
  rw [run_refused hstart (Context.fresh_new []) (admit_refusing .flowStart)] at hstate
  cases hstate

end Executor
end StepFlow
