import StepFlow.Json.Reader
import StepFlow.Proofs.Text.Ascii
import StepFlow.Value.Literal

/-!
# Whole numbers

A whole number is read back from its digits where neither a digit nor a fraction nor an exponent
follows them.
-/
namespace StepFlow

theorem Decimal.natOfDigits_toDigits (n : Nat) : natOfDigits (Nat.toDigits 10 n) = n := by
  have hsame : ∀ (ds : List Char) (m : Nat), (ds.map (·.toNat - 48)).foldl (fun k d => k * 10 + d)
      m = Nat.ofDigitChars 10 ds m := by
    intro ds
    induction ds with
    | nil => exact fun m => rfl
    | cons d ds ih =>
      intro m
      have hzero : '0'.toNat = 48 := rfl
      rw [List.map_cons, List.foldl_cons, ih, Nat.ofDigitChars, Nat.ofDigitChars,
        List.foldl_cons, Nat.mul_comm m, hzero]
  exact (hsame _ 0).trans Nat.ofDigitChars_ten_toDigits

theorem Decimal.isDigit_toDigits {n : Nat} {c : Char} (h : c ∈ Nat.toDigits 10 n) :
    c.isDigit = true :=
  Nat.isDigit_of_mem_toDigits (by decide) (by decide) h

theorem Decimal.toDigits_eq_cons (n : Nat) :
    ∃ d ds, Nat.toDigits 10 n = d :: ds ∧ d.isDigit = true := by
  cases hdigits : Nat.toDigits 10 n with
  | nil => exact absurd hdigits Nat.toDigits_ne_nil
  | cons d ds => exact ⟨d, ds, rfl, isDigit_toDigits (hdigits ▸ List.mem_cons_self)⟩

theorem Decimal.toDigits_of_pos {n : Nat} (h : 0 < n) :
    ∃ d ds, Nat.toDigits 10 n = d :: ds ∧ d ≠ '0' := by
  induction n using Nat.strongRecOn with
  | ind n ih =>
    by_cases hsmall : n < 10
    · have hall : ∀ k < 10, 0 < k → Nat.digitChar k ≠ '0' := by decide
      exact ⟨Nat.digitChar n, [], Nat.toDigits_of_lt_base hsmall, hall n hsmall h⟩
    · obtain ⟨d, ds, hdigits, hd⟩ := ih (n / 10) (by omega) (by omega)
      refine ⟨d, ds ++ [Nat.digitChar (n % 10)], ?_, hd⟩
      rw [Nat.toDigits_of_base_le (by decide) (Nat.le_of_not_lt hsmall), hdigits, List.cons_append]

theorem Decimal.length_toDigits_le {n k : Nat} (hk : 0 < k) (h : n < tenTo k) :
    (Nat.toDigits 10 n).length ≤ k :=
  (Nat.length_toDigits_le_iff (by decide) hk).2 h

namespace Json
variable {rest : List Char}

def Ends (rest : List Char) : Prop :=
  ∀ c cs, rest = c :: cs → c.isDigit = false ∧ c ≠ '.' ∧ c ≠ 'e' ∧ c ≠ 'E'

theorem ends_nil : Ends [] := nofun

theorem ends_cons {c : Char} (h : c.isDigit = false ∧ c ≠ '.' ∧ c ≠ 'e' ∧ c ≠ 'E')
    (cs : List Char) : Ends (c :: cs) := by
  rintro _ _ ⟨⟩
  exact h

theorem Ends.takeWhile (h : Ends rest) : rest.takeWhile Char.isDigit = [] := by
  cases rest with
  | nil => rfl
  | cons c cs => exact List.takeWhile_cons_of_neg (by simp [(h c cs rfl).1])

theorem Ends.fractionAt (h : Ends rest) : fractionAt rest = ([], rest) := by
  unfold Json.fractionAt
  split
  · next cs => exact absurd rfl (h '.' cs rfl).2.1
  · rfl

theorem Ends.exponentAt (h : Ends rest) : exponentAt rest = (none, rest) := by
  unfold Json.exponentAt
  split
  · next c cs =>
    obtain ⟨-, -, he, hE⟩ := h c cs rfl
    have hmark : ¬(c = 'e' ∨ c = 'E') := by simp [he, hE]
    exact if_neg fun hboth => hmark hboth.1
  · rfl

theorem wholeAt_digits (n : Nat) (h : Ends rest) :
    wholeAt (Nat.toDigits 10 n ++ rest) = Nat.toDigits 10 n := by
  by_cases hzero : n = 0
  · subst hzero
    rfl
  · obtain ⟨d, ds, hdigits, hd⟩ := Decimal.toDigits_of_pos (Nat.pos_of_ne_zero hzero)
    have hall : (Nat.toDigits 10 n ++ rest).takeWhile Char.isDigit = Nat.toDigits 10 n := by
      rw [List.takeWhile_append_of_pos fun _ => Decimal.isDigit_toDigits,
        h.takeWhile, List.append_nil]
    unfold wholeAt
    rw [hdigits] at hall ⊢
    split
    · next heq => exact absurd (List.cons.inj heq).1 hd
    · exact hall

theorem number_digits {n : Nat} (hn : n < tenTo Reading.maxDigits) (negative : Bool)
    (h : Ends rest) :
    number negative (Nat.toDigits 10 n ++ rest) =
      .ok (.int (if negative then -(n : Int) else n), rest) := by
  have hlength := Decimal.length_toDigits_le (by decide) hn
  have hsome : (Nat.toDigits 10 n).isEmpty = false := by
    rw [List.isEmpty_eq_false_iff]
    exact Nat.toDigits_ne_nil
  unfold number
  dsimp only
  rw [wholeAt_digits n h, List.drop_left, hsome, h.fractionAt]
  dsimp only
  rw [h.exponentAt]
  dsimp only
  rw [if_neg Bool.false_ne_true, if_pos ⟨rfl, rfl⟩, if_neg (Nat.not_lt.2 hlength),
    Decimal.natOfDigits_toDigits]

/-- No word stands where a number begins. -/
theorem word?_of_digit {d : Char} (hd : d.isDigit = true) {w : List Char} {c : Char}
    (hc : c.isDigit = false) (cs : List Char) : word? (c :: w) (d :: cs) = none := by
  have hne : d ≠ c := by
    rintro rfl
    rw [hd] at hc
    cases hc
  unfold word?
  rw [if_neg]
  simp [hne]

theorem scalar_of_absent {cs : List Char} (h : ∀ p ∈ constants, word? p.1.toList cs = none) :
    scalar cs = if cs.head? = some '-' then number true cs.tail else number false cs := by
  unfold scalar
  split
  · next r hr =>
    obtain ⟨⟨w, v⟩, hmem, hword⟩ := List.exists_of_findSome?_eq_some hr
    have hnone : word? w.toList cs = none := h (w, v) hmem
    dsimp only at hword
    rw [hnone] at hword
    cases hword
  · split
    · rfl
    · next hno =>
      rw [if_neg]
      intro hhead
      obtain ⟨rest, rfl⟩ := List.head?_eq_some_iff.1 hhead
      exact hno rest rfl

theorem scalar_digits {n : Nat} (hn : n < tenTo Reading.maxDigits) (h : Ends rest) :
    scalar (Nat.toDigits 10 n ++ rest) = .ok (.int n, rest) := by
  have hread := number_digits hn false h
  obtain ⟨d, ds, hdigits, hd⟩ := Decimal.toDigits_eq_cons n
  have hminus : d ≠ '-' := by
    rintro rfl
    cases hd
  rw [hdigits, List.cons_append] at hread ⊢
  rw [scalar_of_absent (by simp [constants, word?_of_digit hd]), if_neg (by simp [hminus])]
  exact hread

theorem scalar_minus {n : Nat} (hn : n < tenTo Reading.maxDigits) (h : Ends rest) :
    scalar ('-' :: Nat.toDigits 10 n ++ rest) = .ok (.int (-n), rest) := by
  have hread := number_digits hn true h
  obtain ⟨d, ds, hdigits, hd⟩ := Decimal.toDigits_eq_cons n
  have hI : d ≠ 'I' := by
    rintro rfl
    cases hd
  rw [List.cons_append]
  rw [hdigits, List.cons_append] at hread ⊢
  rw [scalar_of_absent (by simp [constants, word?, hI]), if_pos List.head?_cons]
  exact hread

end Json
end StepFlow
