import StepFlow.Flow.Lookup

/-!
# Finding steps

A step that is found by an id is declared with it, and every declared id finds a step.
-/
namespace StepFlow

namespace Flow
variable {f : Flow} {id : String} {s : Step}

theorem pred_of_lastIndex? {α : Type} {p : α → Bool} {xs : List α} {i : Nat}
    (h : lastIndex? p xs = some i) :
    ∃ a, xs[i]? = some a ∧ p a = true := by
  induction xs generalizing i with
  | nil => cases h
  | cons x xs ih =>
    unfold lastIndex? at h
    split at h
    · next j hj =>
      cases h
      exact ih hj
    · split at h
      · next hp =>
        cases h
        exact ⟨x, rfl, hp⟩
      · cases h

theorem lastIndex?_eq_none {α : Type} {p : α → Bool} {xs : List α} (h : lastIndex? p xs = none) :
    ∀ a ∈ xs, p a = false := by
  induction xs with
  | nil => simp
  | cons x xs ih =>
    unfold lastIndex? at h
    split at h
    · cases h
    · next hrest =>
      split at h
      · cases h
      · next hp => exact List.forall_mem_cons.2 ⟨by simpa using hp, ih hrest⟩

/-- The greatest position with the predicate: at no later one does it hold. -/
theorem lastIndex?_eq_some {α : Type} {p : α → Bool} {xs : List α} {i : Nat} :
    lastIndex? p xs = some i ↔
      (∃ a, xs[i]? = some a ∧ p a = true) ∧ ∀ j a, i < j → xs[j]? = some a → p a = false := by
  induction xs generalizing i with
  | nil => simp [lastIndex?]
  | cons x xs ih =>
    unfold lastIndex?
    constructor
    · intro h
      split at h
      · next j hj =>
        cases h
        obtain ⟨hfound, hlater⟩ := ih.1 hj
        refine ⟨hfound, fun k a hk ha => ?_⟩
        cases k with
        | zero => omega
        | succ k => exact hlater k a (by omega) ha
      · next hnone =>
        split at h
        · next hp =>
          cases h
          refine ⟨⟨x, rfl, hp⟩, fun k a hk ha => ?_⟩
          cases k with
          | zero => omega
          | succ k => exact lastIndex?_eq_none hnone a (List.mem_of_getElem? ha)
        · cases h
    · rintro ⟨⟨a, ha, hp⟩, hlater⟩
      cases i with
      | zero =>
        cases ha
        cases hrest : lastIndex? p xs with
        | none => simp [hp]
        | some j =>
          obtain ⟨b, hb, hpb⟩ := pred_of_lastIndex? hrest
          cases (hlater (j + 1) b (by omega) hb).symm.trans hpb
      | succ i =>
        have hrest : lastIndex? p xs = some i :=
          ih.2 ⟨⟨a, ha, hp⟩, fun j b hj hb => hlater (j + 1) b (by omega) hb⟩
        rw [hrest]

/-- What an id finds: nothing where it is not declared, or else the last position at which it
stands, with the step there and the one declared next. -/
inductive Located (f : Flow) (id : String) : Option Nat → Option Step → Option Step → Prop
  | unknown : id ∉ f.stepIds → Located f id none none none
  | found {i : Nat} {s : Step} : f.steps[i]? = some s → s.id = id →
    (∀ j u, i < j → f.steps[j]? = some u → u.id ≠ id) →
    Located f id (some i) (some s) f.steps[i + 1]?

theorem located (f : Flow) (id : String) :
    f.Located id (f.indexOf? id) (f.step? id) (f.stepAfter? id) := by
  unfold step? stepAfter?
  cases hi : f.indexOf? id with
  | none =>
    refine .unknown fun hmem => ?_
    obtain ⟨s, hs, hid⟩ := List.mem_map.1 hmem
    have hno := lastIndex?_eq_none hi s hs
    simp [hid] at hno
  | some i =>
    obtain ⟨⟨s, hs, hid⟩, hlater⟩ := lastIndex?_eq_some.1 hi
    rw [Option.bind_some, Option.bind_some, hs]
    exact .found hs (beq_iff_eq.1 hid) fun j u hj hu => by simpa using hlater j u hj hu

theorem located_of_step? (h : f.step? id = some s) :
    ∃ i, f.indexOf? id = some i ∧ f.steps[i]? = some s ∧ s.id = id ∧
      (∀ j u, i < j → f.steps[j]? = some u → u.id ≠ id) ∧ f.stepAfter? id = f.steps[i + 1]? := by
  have hlocated := f.located id
  generalize f.indexOf? id = position, f.step? id = found, f.stepAfter? id = following
    at h hlocated ⊢
  cases hlocated with
  | unknown => cases h
  | found hs hid hlater =>
    cases h
    exact ⟨_, rfl, hs, hid, hlater, rfl⟩

theorem located_of_indexOf? {i : Nat} (h : f.indexOf? id = some i) :
    ∃ s, f.step? id = some s ∧ f.steps[i]? = some s := by
  have hlocated := f.located id
  generalize f.indexOf? id = position, f.step? id = found, f.stepAfter? id = following
    at h hlocated ⊢
  cases hlocated with
  | unknown => cases h
  | found hs =>
    cases h
    exact ⟨_, rfl, hs⟩

theorem step?_eq_some (h : f.step? id = some s) : s ∈ f.steps ∧ s.id = id := by
  obtain ⟨i, -, hs, hid, -⟩ := located_of_step? h
  exact ⟨List.mem_of_getElem? hs, hid⟩

theorem indexOf?_of_nodup (h : f.stepIds.Nodup) {i : Nat} (hi : i < f.steps.length) :
    f.indexOf? f.steps[i].id = some i := by
  refine lastIndex?_eq_some.2 ⟨⟨_, List.getElem?_eq_getElem hi, beq_self_eq_true _⟩,
    fun j s hj hs => ?_⟩
  obtain ⟨hj', rfl⟩ := List.getElem?_eq_some_iff.1 hs
  have hne : f.steps[i].id ≠ f.steps[j].id :=
    List.pairwise_iff_getElem.1 (List.pairwise_map.1 h) i j hi hj' hj
  exact beq_eq_false_iff_ne.2 hne.symm

theorem step?_of_nodup (h : f.stepIds.Nodup) {i : Nat} (hi : i < f.steps.length) :
    f.step? f.steps[i].id = some f.steps[i] := by
  rw [step?, indexOf?_of_nodup h hi, Option.bind_some, List.getElem?_eq_getElem hi]

theorem stepAfter?_of_nodup (h : f.stepIds.Nodup) {i : Nat} (hi : i < f.steps.length) :
    f.stepAfter? f.steps[i].id = f.steps[i + 1]? := by
  rw [stepAfter?, indexOf?_of_nodup h hi, Option.bind_some]

theorem isSome_step? : (f.step? id).isSome ↔ id ∈ f.stepIds := by
  have hlocated := f.located id
  generalize f.indexOf? id = position, f.step? id = found, f.stepAfter? id = following at hlocated ⊢
  cases hlocated with
  | unknown hno => simp [hno]
  | found hs hid => exact iff_of_true rfl (hid ▸ List.mem_map_of_mem (List.mem_of_getElem? hs))

theorem start_of_steps (h : f.steps ≠ []) : ∃ start, f.start = .ok start := by
  unfold start
  cases f.defaultStart with
  | some id => exact ⟨id, rfl⟩
  | none =>
    cases hsteps : f.steps with
    | nil => exact absurd hsteps h
    | cons s rest => exact ⟨s.id, rfl⟩

end Flow
end StepFlow
