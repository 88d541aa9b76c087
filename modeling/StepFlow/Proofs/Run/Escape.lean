import StepFlow.Proofs.Flow.References
import StepFlow.Proofs.Prompt.Template
import StepFlow.Proofs.Run.Path

/-!
# What escapes from a run

A run of a flow that was read comes to its end or to the limit of steps, unless a fault escapes from
one of its visits: from the execution of the step, or from the choice of the next one. Such a fault
ends the run. Everything else that goes wrong in a step is kept in its result, by which the run goes
on.
-/
namespace StepFlow

namespace Leads
variable {f : Flow} {place stop : Except Fault (Option String)} {path : List (Step × StepResult)}

theorem declared (hclosed : f.Closed) (h : Leads f place path stop)
    (hplace : ∀ id, place = .ok (some id) → id ∈ f.stepIds) :
    ∀ id, stop = .ok (some id) → id ∈ f.stepIds := by
  induction h with
  | nil => exact hplace
  | cons hfound _ ih =>
    apply ih
    intro id hid
    exact hclosed.next _ (Flow.step?_eq_some hfound).1 _ _ id hid

theorem goes_on (h : Leads f place path stop) :
    ∀ e ∈ path, nextStep e.1 e.2.status e.2.output f = stop ∨
    ∃ id, nextStep e.1 e.2.status e.2.output f = .ok (some id) := by
  induction h with
  | nil => simp
  | @cons _ s r _ _ _ hrest ih =>
    refine List.forall_mem_cons.2 ⟨?_, ih⟩
    dsimp only
    generalize nextStep s r.status r.output f = place at hrest
    cases hrest with
    | nil => exact .inl rfl
    | cons => exact .inr ⟨_, rfl⟩

end Leads

namespace Executor
variable {σ : Type} {x : Executor σ} {f : Flow} {c : Context} {w : World σ}

theorem Escape.kind? {s : Step} {fault : Fault} (h : x.Escape s f c w fault) :
    fault.kind? = none := by
  cases h with
  | prompt _ hprompt => exact Template.kind?_of_interpolate hprompt
  | untold _ _ _ _ hspoken => exact Fault.kind?_of_spoken hspoken
  | sealed => rfl

inductive Escapes (x : Executor σ) (f : Flow) (v : Visit σ) : Fault → Prop
  /-- From the execution of the step, with its configuration as that reads by then. -/
  | execution {fault : Fault} : x.Escape (x.present v.before v.step) f v.context v.before fault →
    Escapes x f v fault
  /-- From the choice of the next step by a result that was kept. -/
  | transition {r : StepResult} {fault : Fault} : v.outcome = .ok r →
    nextStep v.step r.status r.output f = .error fault → Escapes x f v fault

theorem Escapes.kind? {v : Visit σ} {fault : Fault} (h : x.Escapes f v fault) :
    fault.kind? = none := by
  cases h with
  | execution hescape => exact hescape.kind?
  | transition _ hnext => exact kind?_of_nextStep hnext

theorem Proper.outcome_eq_error_iff {v : Visit σ} {fault : Fault} (h : x.Proper f v) :
    v.outcome = .error fault ↔ x.Escape (x.present v.before v.step) f v.context v.before fault := by
  have hiff := execute_eq_error_iff (x := x) (s := x.present v.before v.step) (f := f)
    (c := v.context) h.opened fault
  rw [h.executed] at hiff
  exact hiff

/-- What escapes from a visit is the fault of the walk. -/
theorem Verdict.of_escapes {limit : Nat} {vs : List (Visit σ)}
    {place stop : Except Fault (Option String)} {result : Except Fault Unit} {v : Visit σ}
    {fault : Fault} (h : x.Verdict f limit vs stop result)
    (hleads : Leads f place (vs.filterMap Visit.executed?) stop) (hv : v ∈ vs)
    (hproper : x.Proper f v)
    (hescapes : x.Escapes f v fault) : result = .error fault := by
  cases hescapes with
  | execution hescape =>
    have hfault := hproper.outcome_eq_error_iff.2 hescape
    have hnot (hreturned : Returned vs) : False := by
      obtain ⟨r, hr⟩ := hreturned v hv
      cases hr.symm.trans hfault
    cases h with
    | completed hreturned => exact (hnot hreturned).elim
    | limited hreturned => exact (hnot hreturned).elim
    | missing hreturned => exact (hnot hreturned).elim
    | undecided before hlast hbefore _ hr _ =>
      refine (hnot ?_).elim
      rw [hlast]
      exact List.forall_mem_append.2 ⟨hbefore, List.forall_mem_singleton.2 ⟨_, hr⟩⟩
    | raised before hlast hbefore _ _ hraised =>
      rw [hlast] at hv
      rcases List.mem_append.1 hv with hv | hv
      · obtain ⟨r, hr⟩ := hbefore v hv
        cases hr.symm.trans hfault
      · cases List.mem_singleton.1 hv
        cases hraised.symm.trans hfault
        rfl
  | @transition r _ hr hnext =>
    have hmem : (v.step, r) ∈ vs.filterMap Visit.executed? :=
      List.mem_filterMap.2 ⟨v, hv, Visit.executed?_of_ok hr⟩
    have hstop : stop = .error fault := by
      rcases hleads.goes_on _ hmem with hstops | ⟨id, hon⟩
      · exact hstops.symm.trans hnext
      · cases hon.symm.trans hnext
    cases h <;> cases hstop
    rfl

/-- A walk that stops at no missing step comes to its end or to the limit, unless something escapes
from a visit. -/
theorem Verdict.ends_well {limit : Nat} {vs : List (Visit σ)} {stop : Except Fault (Option String)}
    {result : Except Fault Unit} (h : x.Verdict f limit vs stop result)
    (hstop : ∀ id, stop = .ok (some id) → id ∈ f.stepIds) (hproper : ∀ v ∈ vs, x.Proper f v)
    (hnothing : ∀ v ∈ vs, ∀ fault, ¬x.Escapes f v fault) :
    result = .ok () ∨ ∃ id, result = .error (.stepLimit f.id x.config.maxSteps id) := by
  cases h with
  | completed => exact .inl rfl
  | limited => exact .inr ⟨_, rfl⟩
  | missing _ _ hmissing =>
    have hfound := Flow.isSome_step?.2 (hstop _ rfl)
    rw [hmissing] at hfound
    cases hfound
  | undecided before hlast _ _ hr hnext =>
    have hmem : _ ∈ vs := hlast ▸ List.mem_append_right before List.mem_cons_self
    exact absurd (.transition hr hnext) (hnothing _ hmem _)
  | raised before hlast _ _ _ hfault =>
    have hmem : _ ∈ vs := hlast ▸ List.mem_append_right before List.mem_cons_self
    exact absurd (.execution ((hproper _ hmem).outcome_eq_error_iff.1 hfault)) (hnothing _ hmem _)

/-- A run of a flow that was read, which nobody cancels, comes to its end or to the limit of steps
just if nothing escapes from its visits. What escapes ends the run, with the failure to tell its
text in its place if it has none; what does not is kept in a result, by which the run goes on. -/
theorem run_ends_well_iff {data knownAs : Value} (hparse : Flow.parse data knownAs = .ok f)
    (hfresh : c.Fresh) (hw : w.TakesEvents) (huncancelled : (x.run f c w).2.2.cancellation = none) :
    (((x.run f c w).1 = .ok () ∧ (x.run f c w).2.1.state = .completed ∨
        ∃ id, (x.run f c w).1 = .error (.stepLimit f.id x.config.maxSteps id)) ↔
      ∀ v ∈ x.visits f c w, ∀ fault, ¬x.Escapes f v fault) ∧
    (∀ v ∈ x.visits f c w, ∀ fault, x.Escapes f v fault → match fault.spoken with
      | .ok _ => (x.run f c w).1 = .error fault ∧ (x.run f c w).2.1.state = .failed
      | .error own => (x.run f c w).1 = .error own ∧ (x.run f c w).2.1.state = .running) ∧
    (∀ v ∈ x.visits f c w, ∀ r, v.outcome = .ok r → r.stepId = v.step.id ∧
      (r.status = .success ∨ r.Lost)) ∧
    ∃ start stop, f.start = .ok start ∧
      Leads f (.ok (some start)) ((x.visits f c w).filterMap Visit.executed?) stop ∧
      (x.run f c w).2.1.history = ((x.visits f c w).filterMap Visit.executed?).map fun e =>
        e.1.id := by
  have hclosed := Flow.closed_of_parse hparse
  obtain ⟨start, hstart, hdeclared⟩ := hclosed.start
  obtain ⟨c₁, w₁, out, w₂, hran⟩ := ran (x := x) hstart hfresh hw
  obtain ⟨stop, hleads, hverdict⟩ := hran.course.leads (hran.cancellation_after ▸ huncancelled)
  have hproper := hran.course.proper hran.opened
  have hstop := hleads.declared hclosed (by rintro _ ⟨⟩; exact hdeclared)
  have hescaped {v : Visit σ} (hv : v ∈ x.visits f c w) {fault : Fault}
      (hescapes : x.Escapes f v fault) :
      out.1 = .error fault := hverdict.of_escapes hleads hv (hproper v hv) hescapes
  refine ⟨⟨fun hwell v hv fault hescapes => ?_, fun hnothing => ?_⟩, ?_, ?_, start, stop,
    hstart, hleads, hran.history⟩
  · rw [hran.result, hescaped hv hescapes] at hwell
    have hkind := hescapes.kind?
    rcases hwell with ⟨hok, -⟩ | ⟨id, hlimited⟩
    · exact nomatch toldAs_eq_ok hok
    · rcases eq_of_toldAs hlimited with hlimited | houtside
      · cases hlimited
        cases hkind
      · cases houtside
  · rcases hverdict.ends_well hstop hproper hnothing with hok | ⟨id, hlimited⟩
    · have htold : Tellable out.1 := hok ▸ tellable_ok
      rw [hran.result, hran.state htold, htold.toldAs, hok]
      exact .inl ⟨rfl, rfl⟩
    · rw [hran.result, hlimited]
      exact .inr ⟨id, rfl⟩
  · intro v hv fault hescapes
    have hfault := hescaped hv hescapes
    cases hspoken : fault.spoken with
    | ok text =>
      have htold : Tellable out.1 := hfault ▸ tellable_of_spoken hspoken
      dsimp only
      rw [hran.result, hran.state htold, htold.toldAs, hfault]
      refine ⟨rfl, ?_⟩
      dsimp only
      rw [stateAfter, hescapes.kind?]
      rfl
    | error own =>
      dsimp only
      rw [hran.result, hfault, toldAs_of_silent hspoken]
      exact ⟨rfl, (hran.unclosed hfault hspoken).state⟩
  · intro v hv r hr
    obtain ⟨hid, hfate, -⟩ := result_of_execute (hproper v hv).opened (hr ▸ (hproper v hv).executed)
    exact ⟨hid, hfate⟩

theorem round_ends_well :
    let x := lone 3 { outcome := .error (.raised .cancelled "stop" []) }
    (x.run Flow.round (.new []) { memory := () }).1 = .ok () ∧
      ∀ v ∈ x.visits Flow.round (.new []) { memory := () }, ∀ fault,
        ¬x.Escapes Flow.round v fault := by
  have hok : ((lone 3 { outcome := .error (.raised .cancelled "stop" []) }).run Flow.round (.new [])
      { memory := () }).1 = .ok () := by with_unfolding_all rfl
  obtain ⟨hiff, -⟩ :=
    run_ends_well_iff (x := lone 3 { outcome := .error (.raised .cancelled "stop" []) })
    (w := { memory := () }) Flow.parse_round (Context.fresh_new []) rfl (by decide +kernel)
  exact ⟨hok, hiff.1 (.inl ⟨hok, by decide +kernel⟩)⟩

def echoData : Value := .record [
  ("id", .text "echo"),
  ("steps", .list [.record [("id", .text "a"), ("action", .text "search"),
    ("prompt", .text "\x7bx\x7d")]])]

def echo : Flow where
  id := "echo"
  steps := [{ id := "a", action := .search, prompt := "\x7bx\x7d" }]

/-- Not every run ends well: the value that the caller gives need not have a text. -/
theorem not_every_run_ends_well :
    ¬∀ (data knownAs : Value) (f : Flow) (x : Executor Unit) (c : Context) (w : World Unit),
      Flow.parse data knownAs = .ok f → c.Fresh → w.TakesEvents →
        (x.run f c w).2.2.cancellation = none → (x.run f c w).1 = .ok () ∨
          ∃ id, (x.run f c w).1 = .error (.stepLimit f.id x.config.maxSteps id) := by
  intro h
  have hrun : ((lone 3 { outcome := .ok .null }).run echo (.new [(.text "x", .unprintable "boom")])
      { memory := () }).1 = .error (.text (.unprintable "boom")) := by with_unfolding_all rfl
  rcases h echoData .null echo (lone 3 { outcome := .ok .null })
    (.new [(.text "x", .unprintable "boom")])
    { memory := () } rfl (Context.fresh_new _) rfl (by decide +kernel) with hok | ⟨id, hlimited⟩
  · cases hrun.symm.trans hok
  · cases hrun.symm.trans hlimited

end Executor
end StepFlow
