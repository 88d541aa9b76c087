import StepFlow.Proofs.Flow.Fields
import StepFlow.Proofs.Schema.Respelling

/-!
# Flows in another spelling

Each field of a flow, of its steps with their inputs and conditions, and of its output goes by a
name with underscores and by one in camel case, the preferences by an older name too. A flow is the
same in every spelling. The configuration of a step belongs to its action, and stays as it is.
-/
namespace StepFlow

open Schema Checked

def StepInputs.form : Form where
  fields := [{ name := "from_step" }, { name := "from_context" }]
  apart := by decide

def Conditions.form : Form where
  fields := [{ name := "on_success" }, { name := "on_failure" }, { name := "on_no_results" }]
  apart := by decide

def OutputSpec.form : Form where
  fields := [{ name := "format" }, { name := "include_sources" }, { name := "title" }]
  apart := by decide

def Step.form : Form where
  fields := [
    { name := "id" }, { name := "action" }, { name := "prompt" }, { name := "config" },
      { name := "worker_override" },
    { name := "timeout" },
    { name := "inputs", respells := StepInputs.form.DataRespelled, refl := .same },
    { name := "conditions", respells := Conditions.form.DataRespelled, refl := .same }]
  apart := by decide

/-- A preference under another key for its role, or as it is. -/
inductive RoleRespelled : Value × Value → Value × Value → Prop
  | same (e : Value × Value) : RoleRespelled e e
  | role (role key key' : String) (v : Value) (hrole : role ∈ ["search", "analysis", "primary"])
      (hkey : key ∈ roleKeys role) (hkey' : key' ∈ roleKeys role) : RoleRespelled
      (.text key, v) (.text key', v)

inductive PreferencesRespelled : Value → Value → Prop
  | same (v : Value) : PreferencesRespelled v v
  | roles (entries other : Entries) (h : List.Forall₂ RoleRespelled entries other) :
      PreferencesRespelled (.mapping entries) (.mapping other)

def Flow.form : Form where
  fields := [
    { name := "id" }, { name := "name" }, { name := "description" },
    { name := "steps", respells := ListRespelled Step.form.DataRespelled, refl := .same },
    { name := "default_start_step" },
    { name := "worker_preferences", aliases := ["modelPreferences"],
      respells := PreferencesRespelled, refl := .same },
    { name := "action_workers" },
    { name := "output", respells := OutputSpec.form.DataRespelled, refl := .same }]
  apart := by decide

theorem value?_eq {α : Type} {check : Value → Checked α} (v w : Value) (h : v = w) :
    (check v).value? = (check w).value? := by
  rw [h]

theorem StepInputs.value?_check {entries other : Entries} (h : form.Respelled entries other) :
    (check (.mapping entries)).value? = (check (.mapping other)).value? := by
  refine value?_seq_congr (value?_map_congr _ ?_) ?_
  · exact h.value?_field ⟨0, by decide⟩ (by decide) none value?_eq
  · exact h.value?_field ⟨1, by decide⟩ (by decide) none value?_eq

theorem Conditions.value?_check {entries other : Entries} (h : form.Respelled entries other) :
    (check (.mapping entries)).value? = (check (.mapping other)).value? := by
  refine value?_seq_congr (value?_seq_congr (value?_map_congr _ ?_) ?_) ?_
  · exact h.value?_field ⟨0, by decide⟩ (by decide) none value?_eq
  · exact h.value?_field ⟨1, by decide⟩ (by decide) none value?_eq
  · exact h.value?_field ⟨2, by decide⟩ (by decide) none value?_eq

theorem OutputSpec.value?_check {entries other : Entries} (h : form.Respelled entries other) :
    (check (.mapping entries)).value? = (check (.mapping other)).value? := by
  refine value?_seq_congr (value?_seq_congr (value?_map_congr _ ?_) ?_) ?_
  · exact h.value?_field ⟨0, by decide⟩ (by decide) _ value?_eq
  · exact h.value?_field ⟨1, by decide⟩ (by decide) _ value?_eq
  · exact h.value?_field ⟨2, by decide⟩ (by decide) _ value?_eq

theorem Step.value?_check {entries other : Entries} (h : form.Respelled entries other) :
    (check (.mapping entries)).value? = (check (.mapping other)).value? := by
  refine value?_seq_congr
    (value?_seq_congr (value?_seq_congr (value?_seq_congr (value?_seq_congr (value?_seq_congr
    (value?_seq_congr (value?_map_congr _ ?id) ?action) ?prompt) ?config) ?override) ?timeout)
      ?inputs) ?conditions
  case id => exact h.value?_required ⟨0, by decide⟩ (by decide) value?_eq
  case action => exact h.value?_required ⟨1, by decide⟩ (by decide) value?_eq
  case prompt => exact h.value?_field ⟨2, by decide⟩ (by decide) _ value?_eq
  case config => exact h.value?_field ⟨3, by decide⟩ (by decide) _ value?_eq
  case override => exact h.value?_field ⟨4, by decide⟩ (by decide) _ value?_eq
  case timeout => exact h.value?_field ⟨5, by decide⟩ (by decide) _ value?_eq
  case inputs =>
    refine h.value?_field ⟨6, by decide⟩ (by decide) _ fun v w hvalue => ?_
    exact Form.DataRespelled.value?_eq hvalue fun entries other h =>
      value?_map_congr some (StepInputs.value?_check h)
  case conditions =>
    refine h.value?_field ⟨7, by decide⟩ (by decide) _ fun v w hvalue => ?_
    exact Form.DataRespelled.value?_eq hvalue fun entries other h =>
      value?_map_congr some (Conditions.value?_check h)

theorem PreferencesRespelled.currentRoles_eq {v w : Value} (h : PreferencesRespelled v w) :
    currentRoles v = currentRoles w := by
  cases h with
  | same => rfl
  | roles entries other h =>
    have hroles : List.Forall₂ (fun e u => roleOfKey e.1 = roleOfKey u.1 ∧
      e.2 = u.2) entries other := by
      refine h.imp fun e u hrole => ?_
      cases hrole with
      | same => exact ⟨rfl, rfl⟩
      | role role key key' v hrole hkey hkey' =>
        rw [roleOfKey_text, roleOfKey_text, (roleOf_eq_iff hrole key).2 hkey,
          (roleOf_eq_iff hrole key').2 hkey']
        exact ⟨rfl, rfl⟩
    have htruthy := List.rel_filter (p := fun e => e.2.isTruthy) (q := fun e => e.2.isTruthy)
      (fun _ _ hentry => Bool.eq_iff_iff.1 (congrArg Value.isTruthy hentry.2)) hroles
    have hkept : (entries.filter fun e => e.2.isTruthy).map (fun e => (roleOfKey e.1, e.2)) =
        (other.filter fun e => e.2.isTruthy).map (fun e => (roleOfKey e.1, e.2)) := by
      rw [← List.forall₂_eq_eq_eq]
      exact List.rel_map (fun _ _ hentry => Prod.ext hentry.1 hentry.2) htruthy
    unfold currentRoles
    dsimp only
    rw [hkept]

section Known
variable {α : Type} {m : Form} {entries other : Entries} {check : Value → Checked α}

theorem Schema.Form.Respelled.value?_field_known (h : m.Respelled entries other) (knownAs : Value)
    (i : Fin m.fields.length) {names : List String}
    (hnames : names ⊆ (m.fields.get i).names ∧ (m.fields.get i).names ⊆ names) (hid : "id" ∉ names)
    (default : α)
    (hcheck : ∀ v w, (m.fields.get i).respells v w → (check v).value? = (check w).value?) :
    (field (entries.known knownAs) names default check).value? =
      (field (other.known knownAs) names default check).value? := by
  rw [Entries.value?_field_known hid, Entries.value?_field_known hid]
  exact h.value?_field i hnames default hcheck

theorem Schema.Form.Respelled.value?_required_known (h : m.Respelled entries other)
    (knownAs : Value) (i : Fin m.fields.length) {name : String}
    (hname : [name] ⊆ (m.fields.get i).names ∧ (m.fields.get i).names ⊆ [name]) (hid : name ≠ "id")
    (hcheck : ∀ v w, (m.fields.get i).respells v w → (check v).value? = (check w).value?) :
    (required (entries.known knownAs) name check).value? =
    (required (other.known knownAs) name check).value? := by
  rw [Entries.value?_required_known hid, Entries.value?_required_known hid]
  exact h.value?_required i hname hcheck

end Known

theorem Flow.value?_check {entries other : Entries} (h : form.Respelled entries other)
    (knownAs : Value) :
    (Flow.check (entries.known knownAs)).value? = (Flow.check (other.known knownAs)).value? := by
  refine value?_seq_congr
    (value?_seq_congr (value?_seq_congr (value?_seq_congr (value?_seq_congr (value?_seq_congr
    (value?_seq_congr (value?_map_congr _ ?id) ?name) ?description) ?steps) ?start) ?preferences)
      ?actions)
    (value?_map_congr _ ?output)
  case id =>
    apply Entries.value?_required_known_id
    have hid : Option.Rel Eq (entries.getText? "id") (other.getText? "id") :=
      h.getText?_rel ⟨0, by decide⟩ (by decide)
    generalize entries.getText? "id" = a at hid ⊢
    generalize other.getText? "id" = b at hid ⊢
    cases hid with
    | none => rfl
    | some heq => rw [heq]
  case name => exact h.value?_field_known knownAs ⟨1, by decide⟩ (by decide) (by decide) _ value?_eq
  case description =>
    exact h.value?_field_known knownAs ⟨2, by decide⟩ (by decide) (by decide) _ value?_eq
  case steps =>
    refine h.value?_required_known knownAs ⟨3, by decide⟩ (by decide) (by decide)
      fun v w hvalue => ?_
    refine ListRespelled.value?_sequence hvalue fun v w hstep => ?_
    exact Form.DataRespelled.value?_eq hstep fun entries other h => Step.value?_check h
  case start =>
    exact h.value?_field_known knownAs ⟨4, by decide⟩ (by decide) (by decide) _ value?_eq
  case preferences =>
    refine h.value?_field_known knownAs ⟨5, by decide⟩ (by decide) (by decide) _
      fun v w hvalue => ?_
    rw [PreferencesRespelled.currentRoles_eq hvalue]
  case actions =>
    exact h.value?_field_known knownAs ⟨6, by decide⟩ (by decide) (by decide) _ value?_eq
  case output =>
    refine h.value?_field_known knownAs ⟨7, by decide⟩ (by decide) (by decide) _
      fun v w hvalue => ?_
    exact Form.DataRespelled.value?_eq hvalue fun entries other h => OutputSpec.value?_check h

/-- A flow is accepted in one spelling just if it is accepted in the other, and then as the same
flow. -/
theorem Flow.parse_respelled {entries other : Entries} (h : form.Respelled entries other)
    (knownAs : Value) (f : Flow) :
    Flow.parse (.mapping entries) knownAs = .ok f ↔
    Flow.parse (.mapping other) knownAs = .ok f := by
  rw [parse_eq_ok_iff, parse_eq_ok_iff, value?_check h knownAs]

namespace Flow

def snakeData : Entries := [
  (.text "id", .text "spelled"),
  (.text "steps", .list [.record [("id", .text "a"), ("action", .text "search"),
    ("worker_override", .text "scout"), ("inputs", .record [("from_step", .text "a")])]]),
  (.text "worker_preferences", .record [("search", .text "seeker")])]

def camelData : Entries := [
  (.text "id", .text "spelled"),
  (.text "steps", .list [.record [("id", .text "a"), ("action", .text "search"),
    ("workerOverride", .text "scout"), ("inputs", .record [("fromStep", .text "a")])]]),
  (.text "modelPreferences", .record [("searchModel", .text "seeker")])]

theorem snake_is_camel : form.Respelled snakeData camelData ∧
    ∃ f, parse (.mapping snakeData) .null = .ok f ∧ parse (.mapping camelData) .null = .ok f := by
  have hinputs : StepInputs.form.DataRespelled (.record [("from_step", .text "a")])
      (.record [("fromStep", .text "a")]) :=
    .model _ _ ⟨by decide,
      .cons (.field StepInputs.form.fields[0] _ _ _ _ (by simp) (by decide) (by decide) rfl) .nil⟩
  have hstep : Step.form.DataRespelled
      (.record [("id", .text "a"), ("action", .text "search"), ("worker_override", .text "scout"),
        ("inputs", .record [("from_step", .text "a")])])
      (.record [("id", .text "a"), ("action", .text "search"), ("workerOverride", .text "scout"),
        ("inputs", .record [("fromStep", .text "a")])]) :=
    .model _ _ ⟨by decide, .cons (.same _) (.cons (.same _)
      (.cons (.field Step.form.fields[4] _ _ _ _ (by simp) (by decide) (by decide) rfl)
      (.cons (.field Step.form.fields[6] _ _ _ _ (by simp) (by decide) (by decide) hinputs) .nil)))⟩
  have hpreferences : PreferencesRespelled (.record [("search", .text "seeker")])
      (.record [("searchModel", .text "seeker")]) :=
    .roles _ _ (.cons (.role "search" _ _ _ (by decide) (by decide) (by decide)) .nil)
  have hrespelled : form.Respelled snakeData camelData :=
    ⟨by decide, .cons (.same _)
      (.cons (.field form.fields[3] _ _ _ _ (by simp) (by decide) (by decide)
        (.list _ _ (.cons hstep .nil)))
      (.cons (.field form.fields[5] _ _ _ _ (by simp) (by decide) (by decide) hpreferences) .nil))⟩
  exact ⟨hrespelled, _, rfl, (parse_respelled hrespelled .null _).1 rfl⟩

end Flow
end StepFlow
