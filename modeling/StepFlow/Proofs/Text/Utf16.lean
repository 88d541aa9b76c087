import StepFlow.Proofs.Text.Ascii
import StepFlow.Text.Utf16

/-!
# Units of 16 bits

A unit is spelled by four hexadecimal digits, and the units that characters take are read back as
these characters.
-/
namespace StepFlow.Text

theorem hex_four {n : Nat} (h : n < 0x10000) :
    hex 4 n = [Nat.digitChar (n / 0x1000), Nat.digitChar (n / 0x100 % 16),
      Nat.digitChar (n / 16 % 16), Nat.digitChar (n % 16)] := by
  have hzero : Nat.digitChar 0 = '0' := rfl
  have hmore : ∀ m, 16 ≤ m → Nat.toDigits 16 m = Nat.toDigits 16 (m / 16) ++
      [Nat.digitChar (m % 16)] :=
    fun m hm => Nat.toDigits_of_base_le (by decide) hm
  have hone : ∀ m, m < 16 → Nat.toDigits 16 m = [Nat.digitChar m] :=
    fun m hm => Nat.toDigits_of_lt_base hm
  unfold hex
  by_cases h₁ : n < 16
  · have hparts : n / 0x1000 = 0 ∧ n / 0x100 % 16 = 0 ∧ n / 16 % 16 = 0 ∧ n % 16 = n := by omega
    simp [hone n h₁, hparts, hzero]
  by_cases h₂ : n < 0x100
  · have hparts : n / 0x1000 = 0 ∧ n / 0x100 % 16 = 0 ∧ n / 16 % 16 = n / 16 := by omega
    have hdigits := hmore n (by omega)
    rw [hone (n / 16) (by omega)] at hdigits
    simp [hdigits, hparts, hzero]
  by_cases h₃ : n < 0x1000
  · have hparts : n / 0x1000 = 0 ∧ n / 0x100 % 16 = n / 16 / 16 := by omega
    have hdigits := hmore n (by omega)
    rw [hmore (n / 16) (by omega), hone (n / 16 / 16) (by omega)] at hdigits
    simp [hdigits, hparts, hzero]
  · have hparts : n / 0x1000 = n / 16 / 16 / 16 ∧ n / 0x100 % 16 = n / 16 / 16 % 16 := by omega
    have hdigits := hmore n (by omega)
    rw [hmore (n / 16) (by omega), hmore (n / 16 / 16) (by omega),
      hone (n / 16 / 16 / 16) (by omega)] at hdigits
    simp [hdigits, hparts]

theorem hexDigit?_digitChar {k : Nat} (h : k < 16) : hexDigit? (Nat.digitChar k) = some k := by
  have hall : ∀ k < 16, hexDigit? (Nat.digitChar k) = some k := by decide
  exact hall k h

/-- What is read from the units of one character goes before what is read from those that follow. -/
theorem joinPairs_units16 (c : Char) (ns : List Nat) :
    joinPairs (units16 c.toNat ++ ns) = c :: joinPairs ns := by
  have hvalid : c.toNat < 0xD800 ∨ 0xDFFF < c.toNat ∧ c.toNat < 0x110000 := c.valid
  have hsame : Char.ofNat c.toNat = c := Char.ofNat_toNat c
  unfold units16
  split
  · next hsmall =>
    have halone : ofUnit c.toNat = c := by
      have hwhole : isHalf c.toNat = false := by
        simp only [isHalf, Bool.and_eq_false_iff, decide_eq_false_iff_not]
        omega
      rw [ofUnit, hwhole]
      exact hsame
    cases ns with
    | nil => simp [joinPairs, halone]
    | cons n ns =>
      have hnone : joinHalves? c.toNat n = none := if_neg (by omega)
      simp [joinPairs, halone, hnone]
  · next hlarge =>
    have hpair : joinHalves? (0xD800 + (c.toNat - 0x10000) / 0x400)
        (0xDC00 + (c.toNat - 0x10000) % 0x400) = some c := by
      have hback : 0x10000 + (0xD800 + (c.toNat - 0x10000) / 0x400 - 0xD800) * 0x400 +
          (0xDC00 + (c.toNat - 0x10000) % 0x400 - 0xDC00) = c.toNat := by omega
      unfold joinHalves?
      rw [if_pos (by omega), hback, hsame]
    simp [joinPairs, hpair]

theorem joinPairs_flatMap_units16 (cs : List Char) :
    joinPairs (cs.flatMap fun c => units16 c.toNat) = cs := by
  induction cs with
  | nil => rfl
  | cons c cs ih => rw [List.flatMap_cons, joinPairs_units16, ih]

end StepFlow.Text
