import StepFlow.Json.Reader
import StepFlow.Json.Writer
import StepFlow.Proofs.Text.Utf16

/-!
# Quoted text

A text between quotes is read back, whatever characters had to be escaped.
-/
namespace StepFlow.Json

open Text

def before (units : List Nat) (read : Option (List Nat × List Char)) :
    Option (List Nat × List Char) :=
  read.map fun (ns, rest) => (units ++ ns, rest)

theorem before_append (units more : List Nat) (read : Option (List Nat × List Char)) :
    before units (before more read) = before (units ++ more) read := by
  cases read <;> simp [before]

theorem hex4?_digits {n : Nat} (h : n < 0x10000) :
    hex4? (Nat.digitChar (n / 0x1000)) (Nat.digitChar (n / 0x100 % 16))
      (Nat.digitChar (n / 16 % 16)) (Nat.digitChar (n % 16)) = some n := by
  have hspelled : ofDigits 16 [n / 0x1000, n / 0x100 % 16, n / 16 % 16, n % 16] = n := by
    simp only [ofDigits, List.foldl_cons, List.foldl_nil]
    omega
  unfold hex4?
  rw [hexDigit?_digitChar (show n / 0x1000 < 16 by omega),
    hexDigit?_digitChar (show n / 0x100 % 16 < 16 by omega),
    hexDigit?_digitChar (show n / 16 % 16 < 16 by omega),
      hexDigit?_digitChar (show n % 16 < 16 by omega)]
  simp [hspelled]

theorem body_unit {n : Nat} (h : n < 0x10000) (cs : List Char) :
    body ('\\' :: 'u' :: hex 4 n ++ cs) = before [n] (body cs) := by
  rw [hex_four h]
  simp only [List.cons_append, List.nil_append]
  rw [body, hex4?_digits h]
  cases body cs <;> rfl

theorem body_plain {c : Char} (hquote : c ≠ '"') (hescape : c ≠ '\\') (hcontrol : 32 ≤ c.toNat)
    (cs : List Char) :
    body (c :: cs) = before [c.toNat] (body cs) := by
  have hallowed : ¬(c.toNat < 32 ∨ c = '\\') := by simp [hescape, hcontrol]
  rw [body, if_neg hallowed]
  · cases body cs <;> rfl
  all_goals simp_all

theorem body_short {e c : Char} (hshort : shortEscape? e = some c) (hu : e ≠ 'u') (cs : List Char) :
    body ('\\' :: e :: cs) = before [c.toNat] (body cs) := by
  rw [body, hshort]
  · cases body cs <;> rfl
  all_goals simp_all

theorem body_escapeChar (c : Char) (cs : List Char) :
    body (escapeChar c ++ cs) = before (units16 c.toNat) (body cs) := by
  have hsame : Char.ofNat c.toNat = c := Char.ofNat_toNat c
  unfold escapeChar
  split
  · next h =>
    subst h
    exact body_short rfl (by decide) cs
  split
  · next h =>
    subst h
    exact body_short rfl (by decide) cs
  split
  · next h =>
    subst h
    exact body_short rfl (by decide) cs
  split
  · next h =>
    subst h
    exact body_short rfl (by decide) cs
  split
  · next h =>
    subst h
    exact body_short rfl (by decide) cs
  split
  · next h =>
    rw [← hsame, h]
    exact body_short rfl (by decide) cs
  split
  · next h =>
    rw [← hsame, h]
    exact body_short rfl (by decide) cs
  split
  · next hquote hescape _ _ _ _ _ hplain =>
    have hone : units16 c.toNat = [c.toNat] := if_pos (by omega)
    rw [hone]
    exact body_plain hquote hescape hplain.1 cs
  · have hvalid : c.toNat < 0x110000 := by
      have hc : c.toNat < 0xD800 ∨ 0xDFFF < c.toNat ∧ c.toNat < 0x110000 := c.valid
      omega
    unfold units16
    split
    · next hsmall =>
      rw [List.flatMap_cons, List.flatMap_nil, List.append_nil]
      exact body_unit hsmall cs
    · -- A character beyond 16 bits is escaped as a pair of units.
      rw [List.flatMap_cons, List.flatMap_cons, List.flatMap_nil,
        List.append_nil, List.append_assoc,
        body_unit (by omega), body_unit (by omega), before_append]
      rfl

theorem body_quoted (cs rest : List Char) :
    body (cs.flatMap escapeChar ++ '"' :: rest) =
      some (cs.flatMap fun c => units16 c.toNat, rest) := by
  induction cs with
  | nil => rfl
  | cons c cs ih =>
    rw [List.flatMap_cons, List.append_assoc, body_escapeChar, ih]
    rfl

theorem string_quoted (s : String) (rest : List Char) :
    string (s.toList.flatMap escapeChar ++ '"' :: rest) = .ok (s, rest) := by
  unfold string
  rw [body_quoted]
  dsimp only
  rw [joinPairs_flatMap_units16, String.ofList_toList]

end StepFlow.Json
