import StepFlow.Config
import StepFlow.Proofs.Flow.Fields

/-!
# The workers that a flow and the settings name

Which worker is named for a step, told from the data of its flow and from that of the settings. Six
places may name one: the step, the preference for its role, the action tables of the flow and of the
settings, the primary preference, and the default.
-/
namespace StepFlow

open Schema Checked

def Entries.lastNamed (entries : Entries) (p : Value × Value → Bool) : Option String :=
  (entries.filter p).getLast?.bind fun e => (text e.2).value?

/-- The data of a flow or of settings, where it is read from. -/
structure Staffing where
  flow : Entries
  settings : Entries

namespace Staffing

/-- The worker that the preferences of the flow name for a role. Older keys count as present ones,
and what counts as false does not count. -/
def preferred (d : Staffing) (role : String) : Option String :=
  match present? d.flow preferenceNames with
  | some (_, .mapping entries) => Entries.lastNamed entries fun e => e.2.isTruthy && match e.1 with
    | .text key => key ∈ roleKeys role
    | _ => false
  | _ => none

def ofTable (a : ActionKind) : Value → Option String
  | .mapping entries => Entries.lastNamed entries fun e => (text e.1).value? == some a.name
  | _ => none

def inFlow (d : Staffing) (a : ActionKind) : Option String :=
  (present? d.flow ["actionWorkers", "action_workers"]).bind fun e => ofTable a e.2

def inSettings (d : Staffing) (flowId : String) (a : ActionKind) : Option String :=
  match d.settings.getText? "action_workers" with
  | some (.mapping rows) =>
    (rows.filter fun e => (text e.1).value? == some flowId).getLast?.bind fun e => ofTable a e.2
  | _ => none

/-- The worker that the settings name for all steps without another. -/
def fallback (d : Staffing) : Option String :=
  match d.settings.getText? "default_worker" with
  | some v => (text v).value?
  | none => some "default"

/-- The names that step, flow and settings have for the worker of a step, in the order in which they
count. -/
def rules (d : Staffing) (flowId : String) (s : Step) : List (Option String) := [
  s.workerOverride,
  match s.action with
    | .search => d.preferred "search"
    | .analyze | .synthesize => d.preferred "analysis"
    | .compare | .recommend | .custom => none,
  d.inFlow s.action,
  d.inSettings flowId s.action,
  d.preferred "primary"]

def names (d : Staffing) (flowId : String) (s : Step) : List (Option String) :=
  d.rules flowId s ++ [d.fallback]

end Staffing

def Entries.TextKeyed (entries : Entries) : Prop := ∀ e ∈ entries, ∃ key, e.1 = .text key

theorem Entries.TextKeyed.exists_ofTexts {entries : Entries} (h : entries.TextKeyed) :
    ∃ fields, entries = Entries.ofTexts fields := by
  induction entries with
  | nil => exact ⟨[], rfl⟩
  | cons e entries ih =>
    obtain ⟨⟨key, hkey⟩, hrest⟩ := List.forall_mem_cons.1 h
    obtain ⟨fields, rfl⟩ := ih hrest
    exact ⟨(key, e.2) :: fields, by rw [Entries.ofTexts, Entries.ofTexts, List.map_cons, ← hkey]⟩

theorem eq_bind_of_rel {α β : Type} {g : α → Option β} {o : Option α} {b : Option β}
    (h : Option.Rel (fun a b => g a = some b) o b) : b = o.bind g := by
  cases h with
  | none => rfl
  | some h => exact h.symm

theorem ActionKind.ofName?_eq_some_iff {name : String} {a : ActionKind} :
    ofName? name = some a ↔ name = a.name := by
  constructor
  · intro h
    have hfound := List.find?_some h
    exact (beq_iff_eq.1 hfound).symm
  · rintro rfl
    cases a <;> rfl

theorem value?_action_beq (key : Value) (a : ActionKind) :
    ((action key).value? == some a) = ((text key).value? == some a.name) := by
  rw [value?_action, Bool.eq_iff_iff, beq_iff_eq, beq_iff_eq, Option.bind_eq_some_iff]
  simp [ActionKind.ofName?_eq_some_iff]

namespace Staffing
variable {d : Staffing} {f : Flow} {a : ActionKind} {role : String}

theorem currentRoles_ofTexts (fields : List (String × Value)) :
    currentRoles (.mapping (Entries.ofTexts fields)) = .mapping (Entries.ofTexts
      (((fields.filter fun e => e.2.isTruthy).map fun e => (roleOf e.1, e.2)).foldl
        (fun table e => assign e.1 e.2 table) [])) := by
  rw [← Entries.ofList_ofTexts]
  unfold currentRoles Entries.ofTexts
  dsimp only
  rw [List.filter_map, List.map_map, List.map_map]
  simp only [Function.comp_def, roleOfKey_text]

/-- What a preference says is what the last entry says that speaks for its role and does not count
as false. -/
theorem lookup_preferences (hrole : role ∈ ["search", "analysis", "primary"])
    {fields : List (String × Value)} {table : List (String × String)}
    (h : (Schema.table text text (currentRoles (.mapping (Entries.ofTexts fields)))).value? =
      some table) :
    table.lookup role = Entries.lastNamed (Entries.ofTexts fields) fun e =>
      e.2.isTruthy && match e.1 with
      | .text key => key ∈ roleKeys role
      | _ => false := by
  rw [currentRoles_ofTexts] at h
  rw [eq_bind_of_rel (lookup_table h role)]
  have hdistinct := nodup_foldl_assign ((fields.filter fun e => e.2.isTruthy).map fun e =>
    (roleOf e.1, e.2))
    [] List.nodup_nil
  have hassigned := lookup_foldl_assign ((fields.filter fun e => e.2.isTruthy).map fun e =>
    (roleOf e.1, e.2)) [] role
  generalize List.foldl _ [] _ = assigned at hdistinct hassigned ⊢
  have hread : ((Entries.ofTexts assigned).filter fun e =>
    (text e.1).value? == some role).getLast?.bind
      (fun e => (text e.2).value?) = (assigned.lookup role).bind fun v => (text v).value? := by
    rw [← last_eq_lookup hdistinct, Entries.ofTexts, List.filter_map,
      List.getLast?_map, Option.bind_map, Option.bind_map]
    rfl
  rw [hread, hassigned, List.lookup_nil, Option.or_none, Entries.lastNamed, Entries.ofTexts]
  rw [List.filter_map, List.filter_map, List.filter_filter, List.getLast?_map,
    List.getLast?_map, Option.map_map, Option.bind_map, Option.bind_map]
  have hspeaks (e : String × Value) :
      (roleOf e.1 == role && e.2.isTruthy) = (e.2.isTruthy && decide (e.1 ∈ roleKeys role)) := by
    rw [Bool.and_comm, Bool.eq_iff_iff]
    simp [roleOf_eq_iff hrole]
  simp only [Function.comp_def, hspeaks]

theorem lookup_actions {v : Value} {table : List (ActionKind × String)}
    (h : (Schema.table action text v).value? = some table) (a : ActionKind) :
    table.lookup a = ofTable a v := by
  cases v with
  | mapping entries =>
    rw [eq_bind_of_rel (lookup_table h a)]
    simp only [value?_action_beq]
    rfl
  | _ => cases h

/-- The data is that of a flow and of settings which are accepted. The preferences stand under
texts. -/
structure Describes (d : Staffing) (f : Flow) (c : Config) : Prop where
  flow : ∃ knownAs, Flow.parse (.mapping d.flow) knownAs = .ok f
  textKeyed : ∀ name entries, present? d.flow preferenceNames = some (name, .mapping entries) →
    Entries.TextKeyed entries
  settings : ∃ data, Config.parse data = .ok c ∧ data.toEntries = .ok d.settings

theorem tables_of_check {entries : Entries} (h : (Flow.check entries).value? = some f) :
    (field entries preferenceNames [] fun v => Schema.table text text (currentRoles v)).value? =
        some f.workerPreferences ∧
      (field entries ["actionWorkers", "action_workers"] [] (Schema.table action text)).value? =
        some f.actionWorkers := by
  unfold Flow.check at h
  simp only [value?_seq, value?_map, Option.bind_eq_some_iff, Option.map_eq_some_iff] at h
  obtain ⟨_, ⟨_, ⟨_, ⟨_, ⟨_, ⟨_, ⟨_, ⟨_, -, rfl⟩, _, -, rfl⟩, _, -, rfl⟩, _, -, rfl⟩, _, -, rfl⟩,
    _, hpreferences, rfl⟩, _, hactions, rfl⟩, _, ⟨_, -, rfl⟩, rfl⟩ := h
  exact ⟨hpreferences, hactions⟩

theorem tables_of_config {entries : Entries} {c : Config}
    (h : (Config.check entries).value? = some c) :
    (field entries ["default_worker"] "default" nonEmptyText).value? = some c.defaultWorker ∧
      (field entries ["action_workers"] [] (Schema.table text (Schema.table action text))).value? =
        some c.actionWorkers := by
  unfold Config.check at h
  dsimp only at h
  split at h
  · simp only [value?_seq, value?_map, Option.bind_eq_some_iff, Option.map_eq_some_iff] at h
    obtain ⟨_, ⟨_, ⟨_, ⟨_, ⟨_, -, rfl⟩, _, -, rfl⟩, _, hdefault, rfl⟩, _, -, rfl⟩, _, hactions,
      rfl⟩ := h
    exact ⟨hdefault, hactions⟩
  · simp [value?_seq] at h

theorem field_single_eq {α : Type} {entries : Entries} {name : String} {default a : α}
    {check : Value → Checked α} (h : (field entries [name] default check).value? = some a) :
    entries.getText? name = none ∧ a = default ∨ ∃ v, entries.getText? name = some v ∧
      (check v).value? = some a := by
  rw [value?_field, present?] at h
  cases hfound : entries.getText? name with
  | none =>
    rw [hfound] at h
    exact .inl ⟨rfl, (Option.some_inj.1 h).symm⟩
  | some v =>
    rw [hfound] at h
    exact .inr ⟨v, rfl, h⟩

theorem field_eq {α : Type} {entries : Entries} {names : List String} {default a : α}
    {check : Value → Checked α} (h : (field entries names default check).value? = some a) :
    present? entries names = none ∧ a = default ∨
      ∃ name v, present? entries names = some (name, v) ∧ (check v).value? = some a := by
  rw [value?_field] at h
  split at h
  · next name v hpresent => exact .inr ⟨name, v, hpresent, h⟩
  · next hpresent => exact .inl ⟨hpresent, (Option.some_inj.1 h).symm⟩

namespace Describes
variable {c : Config}

theorem preferred (h : d.Describes f c) (role : String)
    (hrole : role ∈ ["search", "analysis", "primary"]) :
    f.workerPreferences.lookup role = d.preferred role := by
  obtain ⟨knownAs, hparse⟩ := h.flow
  obtain ⟨hcheck, -⟩ := Flow.parse_eq_ok_iff.1 hparse
  have hfield := field_eq (tables_of_check hcheck).1
  rw [Entries.present?_known (by decide)] at hfield
  unfold Staffing.preferred
  obtain ⟨hpresent, hempty⟩ | ⟨name, v, hpresent, hread⟩ := hfield
  · rw [hpresent, hempty]
    rfl
  · rw [hpresent]
    cases v with
    | mapping entries =>
      obtain ⟨fields, rfl⟩ := (h.textKeyed name entries hpresent).exists_ofTexts
      exact lookup_preferences hrole hread
    | _ => cases hread

theorem inFlow (h : d.Describes f c) (a : ActionKind) : f.actionWorkers.lookup a = d.inFlow a := by
  obtain ⟨knownAs, hparse⟩ := h.flow
  obtain ⟨hcheck, -⟩ := Flow.parse_eq_ok_iff.1 hparse
  have hfield := field_eq (tables_of_check hcheck).2
  rw [Entries.present?_known (by decide)] at hfield
  unfold Staffing.inFlow
  obtain ⟨hpresent, hempty⟩ | ⟨name, v, hpresent, hread⟩ := hfield
  · rw [hpresent, hempty]
    rfl
  · rw [hpresent]
    exact lookup_actions hread a

theorem check_settings (h : d.Describes f c) : (Config.check d.settings).value? = some c := by
  obtain ⟨data, hparse, hentries⟩ := h.settings
  obtain ⟨entries, hentries', hcheck⟩ := bind_eq_ok.1 hparse
  cases hentries.symm.trans hentries'
  cases hread : Config.check d.settings with
  | good c' =>
    rw [hread] at hcheck
    exact congrArg some (Except.ok.inj hcheck)
  | bad issues =>
    rw [hread] at hcheck
    cases hcheck

theorem inSettings (h : d.Describes f c) (id : String) (a : ActionKind) :
    (c.actionWorkers.lookup id).bind (·.lookup a) = d.inSettings id a := by
  unfold Staffing.inSettings
  obtain ⟨hfound, hempty⟩ | ⟨v, hfound, hread⟩ :=
    field_single_eq (tables_of_config h.check_settings).2
  · rw [hfound, hempty]
    rfl
  · rw [hfound]
    cases v with
    | mapping rows =>
      have hrow := lookup_table hread id
      dsimp only
      generalize (rows.filter fun e => (text e.1).value? == some id).getLast? = last at hrow ⊢
      generalize c.actionWorkers.lookup id = row at hrow ⊢
      cases hrow with
      | none => rfl
      | some hrow => exact lookup_actions hrow a
    | _ => cases hread

theorem fallback (h : d.Describes f c) : d.fallback = some c.defaultWorker ∧
    c.defaultWorker ≠ "" := by
  unfold Staffing.fallback
  obtain ⟨hfound, hdefault⟩ | ⟨v, hfound, hread⟩ :=
    field_single_eq (tables_of_config h.check_settings).1
  · rw [hfound, hdefault]
    exact ⟨rfl, by decide⟩
  · rw [hfound]
    unfold nonEmptyText at hread
    rw [value?_andThen] at hread
    obtain ⟨name, hname, hread⟩ := Option.bind_eq_some_iff.1 hread
    split at hread
    · cases hread
    · next hnonempty =>
      cases hread
      exact ⟨hname, by simpa using hnonempty⟩

end Describes

end Staffing

end StepFlow
