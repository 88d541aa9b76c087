import StepFlow.Table
import StepFlow.Value.Basic

/-!
# Entries under texts

What is found under a text after an insertion. A text is the same key as itself and as nothing else.
-/
namespace StepFlow

theorem Value.sameKey_text_iff {key : Value} {name : String} :
    key.sameKey (.text name) = true ↔ key = .text name := by
  cases key <;> simp [sameKey, sameNumber, asInt?]

namespace Entries
variable {entries : Entries} {key v : Value} {name : String}

theorem getText?_cons_self : getText? ((.text name, v) :: entries) name = some v := by
  unfold getText? get?
  rw [List.find?_cons, Value.sameKey_text_iff.2 rfl]
  rfl

theorem getText?_cons_of_ne (h : key ≠ .text name) :
    getText? ((key, v) :: entries) name = entries.getText? name := by
  unfold getText? get?
  rw [List.find?_cons, Bool.eq_false_iff.2 (mt Value.sameKey_text_iff.1 h)]

/-- An insertion under a text changes what is found under it, and nothing else. -/
theorem getText?_insert (entries : Entries) (key name : String) (v : Value) :
    (entries.insert (.text key) v).getText? name = if key = name then some v
      else entries.getText? name := by
  induction entries with
  | nil =>
    by_cases h : key = name
    · rw [if_pos h, h]
      exact getText?_cons_self
    · rw [if_neg h]
      exact getText?_cons_of_ne (by simpa using h)
  | cons entry rest ih =>
    obtain ⟨k, u⟩ := entry
    unfold insert
    by_cases hkey : k = .text key
    · subst hkey
      rw [if_pos (Value.sameKey_text_iff.2 rfl)]
      by_cases h : key = name
      · rw [if_pos h, h, getText?_cons_self]
      · have hne : Value.text key ≠ .text name := by simpa using h
        rw [if_neg h, getText?_cons_of_ne hne, getText?_cons_of_ne hne]
    · rw [if_neg (mt Value.sameKey_text_iff.1 hkey)]
      by_cases hname : k = .text name
      · have hne : key ≠ name := by
          rintro rfl
          exact hkey hname
        rw [hname, if_neg hne, getText?_cons_self, getText?_cons_self]
      · rw [getText?_cons_of_ne hname, getText?_cons_of_ne hname, ih]

def ofTexts (fields : List (String × Value)) : Entries := fields.map fun e => (.text e.1, e.2)

theorem insert_ofTexts (fields : List (String × Value)) (name : String) (v : Value) :
    (ofTexts fields).insert (.text name) v = ofTexts (assign name v fields) := by
  induction fields with
  | nil => rfl
  | cons e fields ih =>
    obtain ⟨k, u⟩ := e
    by_cases h : k = name
    · subst h
      rw [assign, if_pos (beq_self_eq_true k)]
      exact if_pos (Value.sameKey_text_iff.2 rfl)
    · rw [assign, if_neg (by simpa using h)]
      refine (if_neg (mt Value.sameKey_text_iff.1 (by simpa using h))).trans ?_
      exact congrArg ((Value.text k, u) :: ·) ih

theorem ofList_ofTexts (fields : List (String × Value)) :
    ofList (ofTexts fields) = ofTexts (fields.foldl (fun table e => assign e.1 e.2 table) []) := by
  have hfold (table : List (String × Value)) :
      (ofTexts fields).foldl (fun es e => Entries.insert es e.1 e.2) (ofTexts table) =
        ofTexts (fields.foldl (fun table e => assign e.1 e.2 table) table) := by
    induction fields generalizing table with
    | nil => rfl
    | cons e fields ih =>
      rw [List.foldl_cons, ← ih, ← insert_ofTexts]
      rfl
  exact hfold []

end Entries
end StepFlow
