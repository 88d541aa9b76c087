import StepFlow.Text.Hex

/-!
# Lines of ASCII

Text that breaks no line and needs no encoding.
-/
namespace StepFlow.Text

def AsciiLine (cs : List Char) : Prop := ∀ c ∈ cs, 0x20 ≤ c.toNat ∧ c.toNat ≤ 0x7E

theorem asciiLine_nil : AsciiLine [] := nofun

@[simp]
theorem asciiLine_cons {c : Char} {cs : List Char} :
    AsciiLine (c :: cs) ↔ (0x20 ≤ c.toNat ∧ c.toNat ≤ 0x7E) ∧ AsciiLine cs := List.forall_mem_cons

@[simp]
theorem asciiLine_append {cs ds : List Char} : AsciiLine (cs ++ ds) ↔ AsciiLine cs ∧ AsciiLine ds :=
  List.forall_mem_append

theorem AsciiLine.of_subset {cs ds : List Char} (h : AsciiLine ds) (hsub : ∀ c ∈ cs, c ∈ ds) :
    AsciiLine cs :=
  fun c hc => h c (hsub c hc)

theorem asciiLine_replicate {c : Char} (h : 0x20 ≤ c.toNat ∧ c.toNat ≤ 0x7E) (n : Nat) :
    AsciiLine (List.replicate n c) := by
  intro d hd
  rw [List.eq_of_mem_replicate hd]
  exact h

theorem asciiLine_flatten {pieces : List (List Char)} (h : ∀ piece ∈ pieces, AsciiLine piece) :
    AsciiLine pieces.flatten := by
  intro c hc
  obtain ⟨piece, hpiece, hmem⟩ := List.mem_flatten.1 hc
  exact h piece hpiece c hmem

theorem asciiLine_intercalate {separator : List Char} {pieces : List (List Char)}
    (hseparator : AsciiLine separator) (h : ∀ piece ∈ pieces, AsciiLine piece) :
    AsciiLine (separator.intercalate pieces) := by
  apply asciiLine_flatten
  intro piece hpiece
  induction pieces with
  | nil => cases hpiece
  | cons first rest ih =>
    obtain ⟨hfirst, hrest⟩ := List.forall_mem_cons.1 h
    cases rest with
    | nil =>
      rw [List.intersperse_singleton, List.mem_singleton] at hpiece
      exact hpiece ▸ hfirst
    | cons second rest =>
      rw [List.intersperse_cons_cons, List.mem_cons, List.mem_cons] at hpiece
      rcases hpiece with rfl | rfl | hmem
      · exact hfirst
      · exact hseparator
      · exact ih hrest hmem

theorem mem_toDigits {base n : Nat} (hbase : 1 < base) {c : Char} (h : c ∈ Nat.toDigits base n) :
    ∃ k, k < base ∧ c = Nat.digitChar k := by
  induction n using Nat.strongRecOn with
  | ind n ih =>
    by_cases hsmall : n < base
    · rw [Nat.toDigits_of_lt_base hsmall, List.mem_singleton] at h
      exact ⟨n, hsmall, h⟩
    · have hlarge : base ≤ n := Nat.le_of_not_lt hsmall
      rw [Nat.toDigits_of_base_le hbase hlarge, List.mem_append, List.mem_singleton] at h
      rcases h with hbefore | hlast
      · exact ih (n / base) (Nat.div_lt_self (by omega) hbase) hbefore
      · exact ⟨n % base, Nat.mod_lt n (by omega), hlast⟩

theorem asciiLine_toDigits {base : Nat} (hbase : 1 < base) (hletters : base ≤ 16) (n : Nat) :
    AsciiLine (Nat.toDigits base n) := by
  have hdigits : ∀ k < 16, 0x20 ≤ (Nat.digitChar k).toNat ∧ (Nat.digitChar k).toNat ≤ 0x7E := by
    decide
  intro c hc
  obtain ⟨k, hk, rfl⟩ := mem_toDigits hbase hc
  exact hdigits k (by omega)

theorem asciiLine_decimal (n : Nat) : AsciiLine (Nat.toDigits 10 n) :=
  asciiLine_toDigits (by decide) (by decide) n

theorem asciiLine_hex (width n : Nat) : AsciiLine (hex width n) := by
  unfold hex
  rw [asciiLine_append]
  exact ⟨asciiLine_replicate (by decide) _, asciiLine_toDigits (by decide) (by decide) n⟩

theorem toList_toString_ofNat (n : Nat) : (toString (Int.ofNat n)).toList = Nat.toDigits 10 n :=
  String.toList_ofList

theorem toList_toString_negSucc (n : Nat) :
    (toString (Int.negSucc n)).toList = '-' :: Nat.toDigits 10 (n + 1) := by
  have hrepr : toString (Int.negSucc n) = "-" ++ String.ofList (Nat.toDigits 10 (n + 1)) := rfl
  rw [hrepr, String.toList_append, String.toList_ofList]
  simp

end StepFlow.Text
