import StepFlow.Prompt.Template

/-!
# Prompts that cannot be made

A prompt that cannot be made has a token that names a value without a text.
-/
namespace StepFlow.Template
variable {values : Entries} {fault : Fault}

/-- The value of a token that has no text, for the given reason. -/
def Textless (values : Entries) (name : List Char) (fault : Fault) : Prop :=
  ∃ v, values.getText? (String.ofList name) = some v ∧ v.toText = .error fault

theorem fill_eq_error {s : Segment} (h : s.fill values = .error fault) :
    ∃ name, s = .token name ∧ Textless values name fault := by
  cases s with
  | char c => cases h
  | token name =>
    refine ⟨name, rfl, ?_⟩
    simp only [Segment.fill] at h
    split at h
    · cases h
    · cases h
    · next v _ hv =>
      refine ⟨v, hv, ?_⟩
      cases ht : v.toText with
      | ok text => simp [ht, bind, Except.bind, pure, Except.pure] at h
      | error f => simpa [ht, bind, Except.bind] using h

theorem fillAll_eq_error {ss : List Segment} (h : fillAll values ss = .error fault) :
    ∃ name, .token name ∈ ss ∧ Textless values name fault := by
  induction ss with
  | nil => cases h
  | cons s rest ih =>
    unfold fillAll at h
    cases hs : s.fill values with
    | error f =>
      simp only [hs, bind, Except.bind, Except.error.injEq] at h
      subst h
      obtain ⟨name, rfl, hname⟩ := fill_eq_error hs
      exact ⟨name, List.mem_cons_self, hname⟩
    | ok text =>
      cases hrest : fillAll values rest with
      | error f =>
        simp only [hs, hrest, bind, Except.bind, Except.error.injEq] at h
        subst h
        obtain ⟨name, hmem, hname⟩ := ih hrest
        exact ⟨name, List.mem_cons_of_mem s hmem, hname⟩
      | ok more => simp [hs, hrest, bind, Except.bind, pure, Except.pure] at h

theorem interpolate_eq_error {template : String} (h : interpolate template values = .error fault) :
    ∃ name, .token name ∈ segments template.toList ∧ Textless values name fault := by
  apply fillAll_eq_error
  unfold interpolate at h
  cases hfill : fillAll values (segments template.toList) with
  | error f => simpa [hfill, bind, Except.bind] using h
  | ok text => simp [hfill, bind, Except.bind, pure, Except.pure] at h

theorem kind?_of_interpolate {template : String} (h : interpolate template values = .error fault) :
    fault.kind? = none := by
  obtain ⟨name, -, v, -, ht⟩ := interpolate_eq_error h
  unfold Value.toText at ht
  cases hd : v.display with
  | ok text =>
    rw [hd] at ht
    cases ht
  | error defect =>
    rw [hd] at ht
    cases ht
    rfl

end StepFlow.Template
