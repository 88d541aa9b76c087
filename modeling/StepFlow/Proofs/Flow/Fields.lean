import StepFlow.Proofs.Fault.Sequence
import StepFlow.Proofs.Flow.Acceptance
import StepFlow.Proofs.Schema.Checked
import StepFlow.Proofs.Value.Entries

/-!
# The fields of a flow

Raw data is accepted just if its fields are in order and the flow of these fields is well
referenced.
-/
namespace StepFlow

open Schema

namespace Entries
variable {entries : Entries} {name : String}

def known (entries : Entries) (knownAs : Value) : Entries :=
  if knownAs.isNull then entries else entries.insertNew (.text "id") knownAs

theorem getText?_known (h : name ≠ "id") (knownAs : Value) :
    (entries.known knownAs).getText? name = entries.getText? name := by
  unfold known insertNew
  split
  · rfl
  · split
    · rfl
    · rw [getText?_insert, if_neg (Ne.symm h)]

theorem getText?_known_id (entries : Entries) (knownAs : Value) :
    (entries.known knownAs).getText? "id" =
    if knownAs.isNull then entries.getText? "id"
    else (entries.getText? "id").or (some knownAs) := by
  unfold known insertNew
  split
  · rfl
  · unfold getText?
    cases hid : entries.get? (.text "id") with
    | some v => simpa using hid
    | none => exact (getText?_insert entries "id" "id" knownAs).trans (if_pos rfl)

theorem present?_known {names : List String} (h : "id" ∉ names) (knownAs : Value) :
    present? (entries.known knownAs) names = present? entries names := by
  induction names with
  | nil => rfl
  | cons name names ih =>
    rw [List.mem_cons, not_or] at h
    rw [present?, present?, getText?_known (Ne.symm h.1), ih h.2]

variable {α : Type}

theorem value?_field_known {names : List String} (h : "id" ∉ names) (knownAs : Value) (default : α)
    (check : Value → Checked α) :
    (field (entries.known knownAs) names default check).value? =
    (field entries names default check).value? := by
  rw [value?_field, value?_field, present?_known h]

theorem value?_required_known (h : name ≠ "id") (knownAs : Value) (check : Value → Checked α) :
    (required (entries.known knownAs) name check).value? =
    (required entries name check).value? := by
  rw [value?_required, value?_required, getText?_known h]

theorem value?_required_known_id {other : Entries} {check : Value → Checked α} (knownAs : Value)
    (h : entries.getText? "id" = other.getText? "id") :
    (required (entries.known knownAs) "id" check).value? =
    (required (other.known knownAs) "id" check).value? := by
  rw [value?_required, value?_required, getText?_known_id, getText?_known_id, h]

end Entries

/-- The keys that speak for a role. -/
def roleKeys (role : String) : List String := [role, role ++ "Model"]

/-- The role for which a key speaks. -/
def roleOf : String → String
  | "searchModel" => "search"
  | "analysisModel" => "analysis"
  | "primaryModel" => "primary"
  | key => key

theorem roleOfKey_text (key : String) : roleOfKey (.text key) = .text (roleOf key) := by
  unfold roleOf
  split
  · rfl
  · rfl
  · rfl
  · next hsearch hanalysis hprimary =>
    unfold roleOfKey
    split
    · next h => exact absurd (Value.text.inj h) hsearch
    · next h => exact absurd (Value.text.inj h) hanalysis
    · next h => exact absurd (Value.text.inj h) hprimary
    · rfl

theorem roleOf_eq_iff {role : String} (hrole : role ∈ ["search", "analysis", "primary"])
    (key : String) :
    roleOf key = role ↔ key ∈ roleKeys role := by
  simp only [List.mem_cons, List.not_mem_nil, or_false] at hrole
  unfold roleOf roleKeys
  rcases hrole with rfl | rfl | rfl <;> split <;> simp_all

namespace Flow
variable {entries : Entries} {knownAs : Value} {f : Flow}

theorem parse_eq_ok_iff : parse (.mapping entries) knownAs = .ok f ↔
    (Flow.check (entries.known knownAs)).value? = some f ∧ f.WellReferenced := by
  cases hcheck : Flow.check (entries.known knownAs) with
  | good g =>
    have hparse : parse (.mapping entries) knownAs = g.checkReferences := by
      unfold Entries.known at hcheck
      simp only [parse, hcheck]
    rw [hparse, Checked.value?_good, Option.some_inj]
    rcases checkReferences_cases g with ⟨hwell, hok⟩ | ⟨fault, hill, herror, -⟩
    · rw [hok]
      constructor
      · rintro ⟨⟩
        exact ⟨rfl, hwell⟩
      · rintro ⟨rfl, -⟩
        rfl
    · rw [herror]
      constructor
      · rintro ⟨⟩
      · rintro ⟨rfl, hwell⟩
        exact absurd hwell hill
  | bad issues =>
    constructor
    · intro h
      unfold Entries.known at hcheck
      simp only [parse, hcheck] at h
      obtain ⟨text, -, hthrow⟩ := bind_eq_ok.1 h
      cases hthrow
    · rintro ⟨⟨⟩, -⟩

end Flow
end StepFlow
