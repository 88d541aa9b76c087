import StepFlow.Proofs.Flow.Lookup
import StepFlow.Transition

/-!
# The transition rule

The first condition that matches a result gives the target. The name of the end is no step as a
target: it ends the run. Without conditions a run goes through the steps as they are declared.
-/
namespace StepFlow

namespace Value

/-- What an output exposes under a name: an entry of a mapping, or an attribute of an object. -/
inductive Exposes (name : String) : Value → Value → Prop
  | entry {entries : Entries} {v : Value} : entries.getText? name = some v →
    Exposes name (.mapping entries) v
  | field {fields : List (String × Value)} {shown : String} {v : Value} :
    fields.lookup name = some v → Exposes name (.object fields shown) v

/-- A collection without members. Texts and bytes are no collections. -/
inductive Vacant : Value → Prop
  | list : Vacant (.list [])
  | tuple : Vacant (.tuple [])
  | set : Vacant (.set [])
  | mapping : Vacant (.mapping [])

theorem isEmptyCollection_eq_true {v : Value} : v.isEmptyCollection = .ok true ↔ v.Vacant := by
  constructor
  · intro h
    cases v with
    | list xs =>
      have hxs : xs = [] := by simpa [isEmptyCollection] using h
      exact hxs ▸ .list
    | tuple xs =>
      have hxs : xs = [] := by simpa [isEmptyCollection] using h
      exact hxs ▸ .tuple
    | set xs =>
      have hxs : xs = [] := by simpa [isEmptyCollection] using h
      exact hxs ▸ .set
    | mapping entries =>
      have hentries : entries = [] := by simpa [isEmptyCollection] using h
      exact hentries ▸ .mapping
    | _ => simp [isEmptyCollection] at h
  · intro h
    cases h <;> rfl

theorem isEmptyCollection_eq_error {v : Value} {fault : Fault} :
    v.isEmptyCollection = .error fault ↔
      ∃ reason told, v = .uncounted reason told ∧ fault = countFault reason told := by
  constructor
  · intro h
    cases v <;> simp only [isEmptyCollection, Except.error.injEq, reduceCtorEq] at h
    exact ⟨_, _, rfl, h.symm⟩
  · rintro ⟨reason, told, rfl, rfl⟩
    rfl

/-- Whether there are no results depends on the results that the output exposes. -/
theorem hasEmptyResults_eq_iff {output : Value} {answer : Except Fault Bool}
    (h : answer ≠ .ok false) :
    output.hasEmptyResults = answer ↔
      ∃ results, output.Exposes "results" results ∧ results.isEmptyCollection = answer := by
  have hfound (found : Option Value) :
      (found.getD .null).isEmptyCollection = answer ↔ ∃ v, found = some v ∧
        v.isEmptyCollection = answer := by
    cases found with
    | none => simp [isEmptyCollection, h.symm]
    | some v => simp
  unfold hasEmptyResults
  constructor
  · intro hanswer
    cases output with
    | mapping entries =>
      obtain ⟨v, hv, hempty⟩ := (hfound _).1 hanswer
      exact ⟨v, .entry hv, hempty⟩
    | object fields shown =>
      obtain ⟨v, hv, hempty⟩ := (hfound _).1 hanswer
      exact ⟨v, .field hv, hempty⟩
    | _ => exact absurd hanswer.symm h
  · rintro ⟨v, hv, hempty⟩
    cases hv with
    | entry hv => exact (hfound _).2 ⟨v, hv, hempty⟩
    | field hv => exact (hfound _).2 ⟨v, hv, hempty⟩

def ShowsNoResults (output : Value) : Prop :=
  ∃ results, output.Exposes "results" results ∧ results.Vacant

theorem hasEmptyResults_eq_true {output : Value} : output.hasEmptyResults = .ok true ↔
    output.ShowsNoResults := by
  rw [hasEmptyResults_eq_iff (by simp), ShowsNoResults]
  simp only [isEmptyCollection_eq_true]

def HidesResults (output : Value) (fault : Fault) : Prop :=
  ∃ reason told, output.Exposes "results" (.uncounted reason told) ∧ fault = countFault reason told

theorem hasEmptyResults_eq_error {output : Value} {fault : Fault} :
    output.hasEmptyResults = .error fault ↔ output.HidesResults fault := by
  rw [hasEmptyResults_eq_iff (by simp), HidesResults]
  constructor
  · rintro ⟨results, hexposes, hempty⟩
    obtain ⟨reason, told, rfl, rfl⟩ := isEmptyCollection_eq_error.1 hempty
    exact ⟨reason, told, hexposes, rfl⟩
  · rintro ⟨reason, told, hexposes, rfl⟩
    exact ⟨_, hexposes, rfl⟩

end Value

theorem given?_eq_some_iff {o : Option String} {t : String} :
    given? o = some t ↔ o = some t ∧ t ≠ "" := by
  cases o with
  | none => simp [given?]
  | some u =>
    by_cases hu : u = ""
    · have hnone : given? (some u) = none := by simp [given?, hu]
      rw [hnone]
      constructor
      · intro h
        cases h
      · rintro ⟨h, ht⟩
        exact absurd ((Option.some.inj h).symm.trans hu) ht
    · have hsome : given? (some u) = some u := by simp [given?, hu]
      rw [hsome]
      constructor
      · intro h
        exact ⟨h, Option.some.inj h ▸ hu⟩
      · exact And.left

theorem given?_eq_none_iff {o : Option String} : given? o = none ↔ ∀ t, o = some t → t = "" := by
  constructor
  · intro h t ht
    refine Decidable.byContradiction fun hne => ?_
    cases h.symm.trans (given?_eq_some_iff.2 ⟨ht, hne⟩)
  · intro h
    cases hgiven : given? o with
    | none => rfl
    | some t =>
      obtain ⟨ht, hne⟩ := given?_eq_some_iff.1 hgiven
      exact absurd (h t ht) hne

namespace Conditions
variable {c : Conditions} {status : StepStatus} {output : Value} {t : String}

/-- The target of the first condition that matches. An absent or empty target does not match. -/
inductive Matches (c : Conditions) (status : StepStatus) (output : Value) : String → Prop
  | success {t : String} : status = .success → c.onSuccess = some t → t ≠ "" →
    Matches c status output t
  | failure {t : String} : status = .failed → c.onFailure = some t → t ≠ "" →
    Matches c status output t
  | noResults {t : String} : (status = .success → ∀ u, c.onSuccess = some u → u = "") →
    (status = .failed → ∀ u, c.onFailure = some u → u = "") → output.ShowsNoResults →
      c.onNoResults = some t → t ≠ "" → Matches c status output t

/-- No target is taken for the status of the step itself, and the results that the third one depends
on cannot be counted. -/
structure Undecided (c : Conditions) (status : StepStatus) (output : Value) (fault : Fault) :
    Prop where
  success : status = .success → ∀ u, c.onSuccess = some u → u = ""
  failure : status = .failed → ∀ u, c.onFailure = some u → u = ""
  third : ∃ t, c.onNoResults = some t ∧ t ≠ ""
  hides : output.HidesResults fault

theorem target?_of_passed (hsuccess : status = .success → ∀ u, c.onSuccess = some u → u = "")
    (hfailure : status = .failed → ∀ u, c.onFailure = some u → u = "") (ht : c.onNoResults = some t)
    (hne : t ≠ "") :
    c.target? status output = output.hasEmptyResults.map fun empty =>
      if empty then some t else none := by
  have hfirst {o : Option String} {u : String} (h : given? o = some u) (hnone : ∀ v, o = some v →
    v = "") : False := by
    cases h.symm.trans (given?_eq_none_iff.2 hnone)
  unfold target?
  rw [given?_eq_some_iff.2 ⟨ht, hne⟩]
  split
  · next hu => exact (hfirst hu (hsuccess rfl)).elim
  · next hu => exact (hfirst hu (hfailure rfl)).elim
  · next hthird _ _ =>
    cases hthird
    cases output.hasEmptyResults <;> rfl
  · next hthird _ _ => cases hthird

/-- The ways in which a target is found, or none, or none can be told. -/
theorem target?_cases (c : Conditions) (status : StepStatus) (output : Value) :
    (∃ t, c.target? status output = .ok (some t) ∧ c.Matches status output t) ∨
      c.target? status output = .ok none ∨
      ∃ fault, c.target? status output = .error fault ∧ c.Undecided status output fault := by
  have hblank {o : Option String} (h : ∀ u, given? o = some u → False) : ∀ u, o = some u → u = "" :=
    given?_eq_none_iff.1 (Option.eq_none_iff_forall_ne_some.2 h)
  unfold target?
  split
  · next u hu =>
    obtain ⟨ht, hne⟩ := given?_eq_some_iff.1 hu
    exact .inl ⟨u, rfl, .success rfl ht hne⟩
  · next u hu =>
    obtain ⟨ht, hne⟩ := given?_eq_some_iff.1 hu
    exact .inl ⟨u, rfl, .failure rfl ht hne⟩
  · next t hthird hsuccess hfailure =>
    obtain ⟨ht, hne⟩ := given?_eq_some_iff.1 hthird
    have hs := fun h => hblank fun u => hsuccess u h
    have hf := fun h => hblank fun u => hfailure u h
    cases hempty : output.hasEmptyResults with
    | error fault =>
      exact .inr (.inr ⟨fault, rfl, hs, hf, ⟨t, ht, hne⟩, Value.hasEmptyResults_eq_error.1 hempty⟩)
    | ok empty =>
      cases empty with
      | true =>
        exact .inl ⟨t, rfl, .noResults hs hf (Value.hasEmptyResults_eq_true.1 hempty) ht hne⟩
      | false => exact .inr (.inl rfl)
  · exact .inr (.inl rfl)

theorem target?_eq_some_iff : c.target? status output = .ok (some t) ↔
    c.Matches status output t := by
  constructor
  · intro h
    obtain ⟨u, htarget, hmatches⟩ | htarget | ⟨fault, htarget, -⟩ := c.target?_cases status output
    · cases h.symm.trans htarget
      exact hmatches
    · cases h.symm.trans htarget
    · cases h.symm.trans htarget
  · intro h
    cases h with
    | success hs ht hne =>
      unfold target?
      rw [hs, given?_eq_some_iff.2 ⟨ht, hne⟩]
    | failure hs ht hne =>
      unfold target?
      rw [hs, given?_eq_some_iff.2 ⟨ht, hne⟩]
    | noResults hs hf hshows ht hne =>
      rw [target?_of_passed hs hf ht hne, Value.hasEmptyResults_eq_true.2 hshows]
      rfl

/-- No target can be told where the results that decide it cannot be counted. -/
theorem target?_eq_error_iff {fault : Fault} :
    c.target? status output = .error fault ↔ c.Undecided status output fault := by
  constructor
  · intro h
    obtain ⟨u, htarget, -⟩ | htarget | ⟨fault, htarget, hundecided⟩ := c.target?_cases status output
    · cases h.symm.trans htarget
    · cases h.symm.trans htarget
    · cases h.symm.trans htarget
      exact hundecided
  · rintro ⟨hs, hf, ⟨t, ht, hne⟩, hhides⟩
    rw [target?_of_passed hs hf ht hne, Value.hasEmptyResults_eq_error.2 hhides]
    rfl

theorem Matches.unique {u : String} (h : c.Matches status output t)
    (g : c.Matches status output u) : t = u :=
  Option.some.inj (Except.ok.inj ((target?_eq_some_iff.2 h).symm.trans (target?_eq_some_iff.2 g)))

theorem Matches.mem (h : c.Matches status output t) :
    some t ∈ [c.onSuccess, c.onFailure, c.onNoResults] := by
  cases h with
  | success _ ht => simp [ht]
  | failure _ ht => simp [ht]
  | noResults _ _ _ ht => simp [ht]

end Conditions

variable {s : Step} {c : Conditions} {status : StepStatus} {output : Value} {f : Flow} {t : String}

theorem nextStep_of_none (hc : s.conditions = none) (status : StepStatus) (output : Value) :
    nextStep s status output f = .ok ((f.stepAfter? s.id).map Step.id) := by
  simp [nextStep, hc]

theorem nextStep_of_some (hc : s.conditions = some c) (status : StepStatus) (output : Value) :
    nextStep s status output f = (c.target? status output).map fun target =>
      target.bind fun t => if t = endTarget then none else some t := by
  simp [nextStep, hc]

/-- With conditions a run goes where the first that matches leads, unless that is the end. -/
theorem nextStep_eq_some_iff (hc : s.conditions = some c) :
    nextStep s status output f = .ok (some t) ↔ c.Matches status output t ∧ t ≠ endTarget := by
  rw [nextStep_of_some hc, ← Conditions.target?_eq_some_iff]
  cases c.target? status output with
  | error fault => simp [Except.map]
  | ok target =>
    cases target with
    | none => simp [Except.map]
    | some u =>
      by_cases hend : u = endTarget
      · simp only [Except.map, Option.bind_some, if_pos hend, Except.ok.injEq,
          reduceCtorEq, Option.some.injEq, false_iff, not_and]
        exact fun h hne => hne (h ▸ hend)
      · simp only [Except.map, Option.bind_some, if_neg hend, Except.ok.injEq,
          Option.some.injEq, iff_self_and]
        exact fun h => h ▸ hend

theorem nextStep_eq_error_iff (hc : s.conditions = some c) {fault : Fault} :
    nextStep s status output f = .error fault ↔ c.Undecided status output fault := by
  rw [nextStep_of_some hc, ← Conditions.target?_eq_error_iff]
  cases c.target? status output <;> simp [Except.map]

theorem kind?_of_nextStep {fault : Fault} (h : nextStep s status output f = .error fault) :
    fault.kind? = none := by
  cases hc : s.conditions with
  | none => cases (nextStep_of_none hc status output).symm.trans h
  | some c =>
    obtain ⟨reason, told, -, rfl⟩ := ((nextStep_eq_error_iff hc).1 h).hides
    cases told <;> rfl

theorem nextStep_eq_none_iff (hc : s.conditions = some c) :
    nextStep s status output f = .ok none ↔
      (∀ t, c.Matches status output t → t = endTarget) ∧
      ∀ fault, ¬c.Undecided status output fault := by
  constructor
  · intro h
    refine ⟨fun t ht => Decidable.byContradiction fun hend => ?_, fun fault hundecided => ?_⟩
    · cases h.symm.trans ((nextStep_eq_some_iff hc).2 ⟨ht, hend⟩)
    · cases h.symm.trans ((nextStep_eq_error_iff hc).2 hundecided)
  · rintro ⟨hends, hdecided⟩
    cases hnext : nextStep s status output f with
    | error fault => exact absurd ((nextStep_eq_error_iff hc).1 hnext) (hdecided fault)
    | ok next =>
      cases next with
      | none => rfl
      | some t =>
        obtain ⟨hmatches, hend⟩ := (nextStep_eq_some_iff hc).1 hnext
        exact absurd (hends t hmatches) hend

end StepFlow
