import StepFlow.Text.Order

/-!
# Sorting by name

What has distinct names has one order by them, whatever order it comes in.
-/
namespace StepFlow.Text
variable {α : Type} {name : α → String} {xs ys : List α}

theorem ordered_mergeSort (name : α → String) (xs : List α) :
    (xs.mergeSort fun a b => !decide (name b < name a)).Pairwise fun a b => name a ≤ name b := by
  have hordered : (xs.mergeSort fun a b => !decide (name b < name a)).Pairwise fun a b =>
      !decide (name b < name a) := by
    refine List.pairwise_mergeSort ?_ ?_ xs
    · intro a b c hab hbc
      simp only [Bool.not_eq_true', decide_eq_false_iff_not, String.not_lt] at *
      exact String.le_trans hab hbc
    · intro a b
      simp only [Bool.or_eq_true, Bool.not_eq_true', decide_eq_false_iff_not, String.not_lt]
      exact String.le_total (name a) (name b)
  refine hordered.imp fun {a b} hle => ?_
  simpa only [Bool.not_eq_true', decide_eq_false_iff_not, String.not_lt] using hle

theorem pairwise_mergeSort (h : (xs.map name).Nodup) :
    (xs.mergeSort fun a b => !decide (name b < name a)).Pairwise fun a b => name a < name b := by
  have hdistinct : (xs.mergeSort fun a b => !decide (name b < name a)).Pairwise fun a b =>
      name a ≠ name b :=
    List.pairwise_map.1 (((List.mergeSort_perm xs _).map name).nodup_iff.2 h)
  refine ((ordered_mergeSort name xs).and hdistinct).imp ?_
  rintro a b ⟨hle, hne⟩
  apply Decidable.of_not_not
  intro hlt
  exact hne (String.le_antisymm hle (String.not_lt.1 hlt))

theorem mergeSort_eq_of_perm (h : (xs.map name).Nodup) (hperm : xs.Perm ys) :
    (xs.mergeSort fun a b => !decide (name b < name a)) = ys.mergeSort fun a b =>
      !decide (name b < name a) := by
  have hnames : (ys.map name).Nodup := (hperm.map name).nodup_iff.1 h
  refine List.Perm.eq_of_pairwise ?_ (pairwise_mergeSort h) (pairwise_mergeSort hnames) ?_
  · intro a b _ _ hab hba
    exact absurd (String.lt_trans hab hba) (String.lt_irrefl _)
  · exact (List.mergeSort_perm xs _).trans (hperm.trans (List.mergeSort_perm ys _).symm)

end StepFlow.Text
