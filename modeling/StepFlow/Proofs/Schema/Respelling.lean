import Mathlib.Data.List.Pairwise
import StepFlow.Proofs.Schema.Checked
import StepFlow.Proofs.Schema.Naming
import StepFlow.Proofs.Value.Entries

/-!
# Data in another spelling

A field of a model goes by several names. Data that gives each field under one name only says the
same under any other name of it: what is read from a field is the same, whatever the order in which
its names are looked up.
-/
namespace StepFlow.Schema

/-- A field of a model: its name with underscores, what it is called beside this and its name in
camel case, and which other spellings its value has. -/
structure FieldForm where
  name : String
  aliases : List String := []
  respells : Value → Value → Prop := Eq
  refl : ∀ v, respells v v := by exact fun _ => rfl

def FieldForm.names (f : FieldForm) : List String := f.name :: camelCase f.name :: f.aliases

def FieldForm.Apart (f g : FieldForm) : Prop := ∀ name ∈ f.names, name ∉ g.names

instance : DecidableRel FieldForm.Apart :=
  fun f g => inferInstanceAs (Decidable (∀ name ∈ f.names, name ∉ g.names))

instance : Std.Symm FieldForm.Apart := ⟨fun _ _ h name hg hf => h name hf hg⟩

/-- The fields of a model. No name stands for two of them. -/
structure Form where
  fields : List FieldForm
  apart : fields.Pairwise FieldForm.Apart

def isAmong (names : List String) : Value → Bool
  | .text name => names.contains name
  | _ => false

def Form.SingleNamed (m : Form) (entries : Entries) : Prop :=
  ∀ f ∈ m.fields, (entries.filter fun e => isAmong f.names e.1).length ≤ 1

instance (m : Form) (entries : Entries) : Decidable (m.SingleNamed entries) :=
  inferInstanceAs
    (Decidable (∀ f ∈ m.fields, (entries.filter fun e => isAmong f.names e.1).length ≤ 1))

/-- An entry in another spelling: a field under another of its names and with another spelling of
its value, or the entry as it is. -/
inductive Form.EntryRespelled (m : Form) : Value × Value → Value × Value → Prop
  | same (e : Value × Value) : EntryRespelled m e e
  | field (f : FieldForm) (name name' : String) (v v' : Value)
      (hf : f ∈ m.fields) (hname : name ∈ f.names)
      (hname' : name' ∈ f.names) (hvalue : f.respells v v') : EntryRespelled m
        (.text name, v) (.text name', v')

/-- Entries that give each field under one name only, and the same in another spelling. -/
structure Form.Respelled (m : Form) (entries other : Entries) : Prop where
  single : m.SingleNamed entries
  entries : List.Forall₂ m.EntryRespelled entries other

inductive Form.DataRespelled (m : Form) : Value → Value → Prop
  | same (v : Value) : DataRespelled m v v
  | model (entries other : Entries) (h : m.Respelled entries other) :
      DataRespelled m (.mapping entries) (.mapping other)

inductive ListRespelled (r : Value → Value → Prop) : Value → Value → Prop
  | same (v : Value) : ListRespelled r v v
  | list (xs ys : List Value) (h : List.Forall₂ r xs ys) : ListRespelled r (.list xs) (.list ys)
  | tuple (xs ys : List Value) (h : List.Forall₂ r xs ys) : ListRespelled r (.tuple xs) (.tuple ys)

section Present
variable {entries : Entries} {names : List String} {name : String} {key v : Value}

theorem isAmong_iff : isAmong names key = true ↔ ∃ name ∈ names, key = .text name := by
  cases key <;> simp [isAmong]

theorem isAmong_text : isAmong names (.text name) = true ↔ name ∈ names := by
  simp [isAmong]

theorem isAmong_congr {other : List String} (h : names ⊆ other ∧ other ⊆ names) :
    isAmong names = isAmong other := by
  funext key
  rw [Bool.eq_iff_iff, isAmong_iff, isAmong_iff]
  exact ⟨fun ⟨name, hname, hkey⟩ => ⟨name, h.1 hname, hkey⟩,
    fun ⟨name, hname, hkey⟩ => ⟨name, h.2 hname, hkey⟩⟩

theorem getText?_eq_none (hname : name ∈ names) (h : ∀ e ∈ entries, isAmong names e.1 = false) :
    entries.getText? name = none := by
  induction entries with
  | nil => rfl
  | cons e entries ih =>
    obtain ⟨hfirst, hrest⟩ := List.forall_mem_cons.1 h
    have hne : e.1 ≠ .text name := by
      intro heq
      rw [heq, isAmong_text.2 hname] at hfirst
      cases hfirst
    exact (Entries.getText?_cons_of_ne hne).trans (ih hrest)

theorem present?_eq_none (h : ∀ e ∈ entries, isAmong names e.1 = false) :
    present? entries names = none := by
  have hnone : ∀ name ∈ names, entries.getText? name = none :=
    fun name hname => getText?_eq_none hname h
  clear h
  induction names with
  | nil => rfl
  | cons name names ih =>
    obtain ⟨hfirst, hrest⟩ := List.forall_mem_cons.1 hnone
    rw [present?, hfirst, ih hrest]

theorem present?_cons_of_not_among (h : isAmong names key = false) :
    present? ((key, v) :: entries) names = present? entries names := by
  have hget : ∀ name ∈ names, Entries.getText? ((key, v) :: entries) name =
      entries.getText? name := by
    intro name hname
    apply Entries.getText?_cons_of_ne
    rintro rfl
    rw [isAmong_text.2 hname] at h
    cases h
  clear h
  induction names with
  | nil => rfl
  | cons name names ih =>
    obtain ⟨hfirst, hrest⟩ := List.forall_mem_cons.1 hget
    rw [present?, present?, hfirst, ih hrest]

/-- A field that is given once is present under the name under which it is given. -/
theorem present?_cons_of_among (hname : name ∈ names)
    (hrest : ∀ e ∈ entries, isAmong names e.1 = false) :
    present? ((.text name, v) :: entries) names = some (name, v) := by
  have hnone : ∀ n ∈ names, entries.getText? n = none := fun n hn => getText?_eq_none hn hrest
  clear hrest
  induction names with
  | nil => cases hname
  | cons n names ih =>
    obtain ⟨hfirst, hmore⟩ := List.forall_mem_cons.1 hnone
    rw [present?]
    by_cases hn : n = name
    · rw [hn, Entries.getText?_cons_self]
    · have hne : Value.text name ≠ .text n := by simpa using Ne.symm hn
      rw [Entries.getText?_cons_of_ne hne, hfirst]
      exact ih ((List.mem_cons.1 hname).resolve_left (Ne.symm hn)) hmore

end Present

namespace Form
variable {m : Form} {f : FieldForm} {entries other : Entries} {e e' : Value × Value}
  {names : List String}

theorem eq_of_name {g : FieldForm} (hf : f ∈ m.fields) (hg : g ∈ m.fields) {name : String}
    (hname : name ∈ f.names) (hname' : name ∈ g.names) : f = g := by
  by_contra hne
  exact m.apart.forall hf hg hne name hname hname'

theorem EntryRespelled.isAmong_eq (h : m.EntryRespelled e e') (hf : f ∈ m.fields) :
    isAmong f.names e.1 = isAmong f.names e'.1 := by
  cases h with
  | same e => rfl
  | field g name name' v v' hg hname hname' hvalue =>
    rw [Bool.eq_iff_iff, isAmong_text, isAmong_text]
    constructor
    · intro hmem
      rw [eq_of_name hf hg hmem hname]
      exact hname'
    · intro hmem
      rw [eq_of_name hf hg hmem hname']
      exact hname

theorem length_filter_isAmong (h : List.Forall₂ m.EntryRespelled entries other)
    (hf : f ∈ m.fields) :
    (entries.filter fun e => isAmong f.names e.1).length =
    (other.filter fun e => isAmong f.names e.1).length := by
  have hfiltered : List.Forall₂ m.EntryRespelled (entries.filter fun e => isAmong f.names e.1)
      (other.filter fun e => isAmong f.names e.1) :=
    List.rel_filter (fun _ _ hentry => Bool.eq_iff_iff.1 (hentry.isAmong_eq hf)) h
  exact hfiltered.length_eq

theorem not_among_of_single (h : ((e :: entries).filter fun e => isAmong f.names e.1).length ≤ 1)
    (hamong : isAmong f.names e.1 = true) : ∀ u ∈ entries, isAmong f.names u.1 = false := by
  have hcons : ((e :: entries).filter fun e => isAmong f.names e.1) =
      e :: entries.filter fun e => isAmong f.names e.1 := List.filter_cons_of_pos hamong
  rw [hcons, List.length_cons] at h
  have hnil := List.length_eq_zero_iff.1 (Nat.le_zero.1 (Nat.le_of_succ_le_succ h))
  intro u hu
  simpa using List.filter_eq_nil_iff.1 hnil u hu

/-- What is present of a field in one spelling is present of it in the other. -/
theorem Respelled.present?_rel (h : m.Respelled entries other) (hf : f ∈ m.fields)
    (hnames : names ⊆ f.names ∧ f.names ⊆ names) :
    Option.Rel (fun a b => f.respells a.2 b.2) (present? entries names) (present? other names) := by
  obtain ⟨hsingle, hentries⟩ := h
  have hone := hsingle f hf
  have hone' := length_filter_isAmong hentries hf ▸ hone
  have hsame : isAmong names = isAmong f.names := isAmong_congr hnames
  clear hsingle
  induction hentries with
  | nil =>
    rw [present?_eq_none (by simp)]
    exact .none
  | cons hfirst hrest ih =>
    next e e' entries other =>
    have hplace := hfirst.isAmong_eq hf
    cases hamong : isAmong f.names e.1 with
    | false =>
      have hamong' := hplace.symm.trans hamong
      rw [List.filter_cons_of_neg (by simp [hamong])] at hone
      rw [List.filter_cons_of_neg (by simp [hamong'])] at hone'
      rw [← hsame] at hamong hamong'
      rw [present?_cons_of_not_among hamong, present?_cons_of_not_among hamong']
      exact ih hone hone'
    | true =>
      -- The field is given here, and so nowhere else.
      have hnone := not_among_of_single hone hamong
      have hnone' := not_among_of_single hone' (hplace ▸ hamong)
      rw [← hsame] at hnone hnone'
      cases hfirst with
      | same e =>
        obtain ⟨key, v⟩ := e
        obtain ⟨name, hname, rfl⟩ := isAmong_iff.1 hamong
        rw [present?_cons_of_among (hnames.2 hname) hnone,
          present?_cons_of_among (hnames.2 hname) hnone']
        exact .some (f.refl v)
      | field g name name' v v' hg hname hname' hvalue =>
        have hmem := isAmong_text.1 hamong
        obtain rfl := eq_of_name hf hg hmem hname
        rw [present?_cons_of_among (hnames.2 hname) hnone,
          present?_cons_of_among (hnames.2 hname') hnone']
        exact .some hvalue

variable {α : Type}

theorem Respelled.value?_field (h : m.Respelled entries other) (i : Fin m.fields.length)
    {names : List String} (hnames : names ⊆ (m.fields.get i).names ∧ (m.fields.get i).names ⊆ names)
    (default : α) {check : Value → Checked α}
    (hcheck : ∀ v w, (m.fields.get i).respells v w → (check v).value? = (check w).value?) :
    (field entries names default check).value? = (field other names default check).value? := by
  rw [Schema.value?_field, Schema.value?_field]
  have hpresent := h.present?_rel (List.get_mem m.fields i) hnames
  generalize present? entries names = a at hpresent ⊢
  generalize present? other names = b at hpresent ⊢
  cases hpresent with
  | none => rfl
  | some hvalue => exact hcheck _ _ hvalue

theorem Respelled.getText?_rel (h : m.Respelled entries other) (i : Fin m.fields.length)
    {name : String} (hname : [name] ⊆ (m.fields.get i).names ∧ (m.fields.get i).names ⊆ [name]) :
    Option.Rel (m.fields.get i).respells (entries.getText? name) (other.getText? name) := by
  have hpresent := h.present?_rel (List.get_mem m.fields i) hname
  unfold present? present? at hpresent
  generalize entries.getText? name = a at hpresent ⊢
  generalize other.getText? name = b at hpresent ⊢
  cases a <;> cases b <;> cases hpresent
  · exact .none
  · next hvalue => exact .some hvalue

theorem Respelled.value?_required (h : m.Respelled entries other) (i : Fin m.fields.length)
    {name : String} (hname : [name] ⊆ (m.fields.get i).names ∧ (m.fields.get i).names ⊆ [name])
    {check : Value → Checked α}
    (hcheck : ∀ v w, (m.fields.get i).respells v w → (check v).value? = (check w).value?) :
    (required entries name check).value? = (required other name check).value? := by
  have hvalue := h.getText?_rel i hname
  rw [Schema.value?_required, Schema.value?_required]
  generalize entries.getText? name = a at hvalue ⊢
  generalize other.getText? name = b at hvalue ⊢
  cases hvalue with
  | none => rfl
  | some hvalue => exact hcheck _ _ hvalue

/-- A check that has the same value for the entries of a model in either spelling has the same for
its data. -/
theorem DataRespelled.value?_eq {v w : Value} {check : Value → Checked α} (h : m.DataRespelled v w)
    (hmodel : ∀ entries other, m.Respelled entries other →
      (check (.mapping entries)).value? = (check (.mapping other)).value?) :
    (check v).value? = (check w).value? := by
  cases h with
  | same => rfl
  | model entries other h => exact hmodel entries other h

end Form

namespace Checked
variable {α β : Type} {c c' : Checked α}

theorem value?_map_congr (f : α → β) (h : c.value? = c'.value?) :
    (f <$> c).value? = (f <$> c').value? := by
  rw [value?_map, value?_map, h]

theorem value?_seq_congr {f f' : Checked (α → β)} (hf : f.value? = f'.value?)
    (h : c.value? = c'.value?) :
    (f <*> c).value? = (f' <*> c').value? := by
  rw [value?_seq, value?_seq, hf, h]

end Checked

theorem mapM_congr_of_forall₂ {β : Type} {r : Value → Value → Prop} {g : Value → Option β}
    {xs ys : List Value} (h : List.Forall₂ r xs ys) (hg : ∀ v w, r v w → g v = g w) :
    xs.mapM g = ys.mapM g := by
  induction h with
  | nil => rfl
  | cons hfirst hrest ih => rw [List.mapM_cons, List.mapM_cons, hg _ _ hfirst, ih]

theorem ListRespelled.value?_sequence {α : Type} {r : Value → Value → Prop}
    {check : Value → Checked α} {v w : Value} (h : ListRespelled r v w)
    (hcheck : ∀ v w, r v w → (check v).value? = (check w).value?) :
    (sequence check v).value? = (sequence check w).value? := by
  cases h with
  | same => rfl
  | list xs ys h =>
    rw [Schema.value?_sequence, Schema.value?_sequence]
    exact mapM_congr_of_forall₂ h hcheck
  | tuple xs ys h =>
    rw [Schema.value?_sequence, Schema.value?_sequence]
    exact mapM_congr_of_forall₂ h hcheck

end StepFlow.Schema
