import StepFlow.Proofs.Flow.Transition
import StepFlow.Proofs.Prompt.Interpolation
import StepFlow.Proofs.Value.Entries
import StepFlow.Run.Context

/-!
# Who supplies the values of a template

Four names stand for what a run itself has for its step. Under each of them a template finds the
run's own value where there is one. Where there is none it finds what the caller has put there, so
such a token is in the hands of the caller.
-/
namespace StepFlow

namespace StepInput

/-- The names that stand for what the run itself has. -/
def ownNames : List String := ["query", "caller_context", "previous_step_data", "context_data"]

def own? (i : StepInput) : String → Option Value
  | "query" => some (.text i.query)
  | "caller_context" => some (.mapping i.callerContext)
  | "previous_step_data" => if i.previous.isNull then none else some i.previous
  | "context_data" => i.contextData.map .mapping
  | _ => none

def ofCaller (i : StepInput) (entries : Entries) : StepInput := { i with callerContext := entries }

variable {i : StepInput} {name : String} {entries : Entries}

theorem getText?_values (i : StepInput) (name : String) :
    Entries.getText? i.values name = (i.own? name).or (Entries.getText? i.callerContext name) := by
  -- By the name, and by what the run has of its own: each insertion shows under its own name alone.
  unfold own?
  split
  · cases hcontext : i.contextData <;> cases hprevious : i.previous.isNull <;>
      simp [values, hcontext, hprevious, Entries.getText?_insert]
  · cases hcontext : i.contextData <;> cases hprevious : i.previous.isNull <;>
      simp [values, hcontext, hprevious, Entries.getText?_insert]
  · cases hcontext : i.contextData <;> cases hprevious : i.previous.isNull <;>
      simp [values, hcontext, hprevious, Entries.getText?_insert]
  · cases hcontext : i.contextData <;> cases hprevious : i.previous.isNull <;>
      simp [values, hcontext, hprevious, Entries.getText?_insert]
  · next hquery hcaller hdata hcollected =>
    cases hcontext : i.contextData <;> cases hprevious : i.previous.isNull <;>
      simp [values, hcontext, hprevious, Entries.getText?_insert, Ne.symm hquery,
        Ne.symm hcaller, Ne.symm hdata, Ne.symm hcollected]

theorem own?_of_not_mem (h : name ∉ ownNames) : i.own? name = none := by
  unfold own?
  split <;> first | rfl | exact absurd (by decide) h

theorem own?_ofCaller (h : name ≠ "caller_context") :
    (i.ofCaller entries).own? name = i.own? name := by
  unfold own? ofCaller
  split <;> first | rfl | exact absurd rfl h

theorem isSome_own?_ofCaller (i : StepInput) (entries : Entries) (name : String) :
    ((i.ofCaller entries).own? name).isSome = (i.own? name).isSome := by
  by_cases h : name = "caller_context"
  · rw [h]
    rfl
  · rw [own?_ofCaller h]

end StepInput

namespace Template
variable {values other : Entries} {template : String}

def Mentions (template name : String) : Prop :=
  ∃ before after, Occurs template.toList before name.toList after

theorem mentions_iff {name : String} : Mentions template name ↔
    .token name.toList ∈ segments template.toList := by
  constructor
  · rintro ⟨before, after, hoccurs⟩
    rw [segments_of_occurs hoccurs]
    simp
  · exact occurs_of_mem

/-- What is made of a template depends on the values that it mentions alone. -/
theorem interpolate_congr (h : ∀ name, Mentions template name →
    values.getText? name = other.getText? name) :
    interpolate template values = interpolate template other := by
  have hfill (ss : List Segment) (hss : ∀ s ∈ ss, s ∈ segments template.toList) :
      fillAll values ss = fillAll other ss := by
    induction ss with
    | nil => rfl
    | cons s ss ih =>
      have hs : s.fill values = s.fill other := by
        cases s with
        | char c => rfl
        | token name =>
          have hmentions : Mentions template (String.ofList name) := by
            rw [mentions_iff, String.toList_ofList]
            exact hss _ List.mem_cons_self
          simp only [Segment.fill, h _ hmentions]
      rw [fillAll, fillAll, hs, ih fun s hs => hss s (List.mem_cons_of_mem _ hs)]
  rw [interpolate, interpolate, hfill _ fun _ => id]

theorem fill_of_fillAll {ss : List Segment} {text : List Char} (h : fillAll values ss = .ok text) :
    ∀ s ∈ ss, ∃ part, s.fill values = .ok part := by
  induction ss generalizing text with
  | nil => simp
  | cons s ss ih =>
    rw [fillAll] at h
    cases hs : s.fill values with
    | error fault => simp [hs, bind, Except.bind] at h
    | ok part =>
      cases hrest : fillAll values ss with
      | error fault => simp [hs, hrest, bind, Except.bind] at h
      | ok rest => exact List.forall_mem_cons.2 ⟨⟨part, hs⟩, ih hrest⟩

theorem interpolate_of_unprintable {name text reason : String} (hmentions : Mentions template name)
    (hvalue : values.getText? name = some (.unprintable reason)) :
    interpolate template values ≠ .ok text := by
  intro h
  unfold interpolate at h
  cases hfill : fillAll values (segments template.toList) with
  | error fault => simp [hfill, bind, Except.bind] at h
  | ok cs =>
    obtain ⟨part, hpart⟩ := fill_of_fillAll hfill _ (mentions_iff.1 hmentions)
    rw [Segment.fill, String.ofList_toList, hvalue] at hpart
    cases hpart

end Template

namespace StepInput
open Template
variable {i : StepInput} {template text : String}

/-- Data of the caller that differs under the names of the run alone. -/
def SameBesides (entries other : Entries) : Prop :=
  ∀ name, name ∉ ownNames → entries.getText? name = other.getText? name

/-- What the values of a step are to the run and to its caller. -/
structure Shadows (i : StepInput) : Prop where
  /-- The run's own values lie over those of the caller, which show under every name that the run
  leaves free. -/
  values : ∀ name, Entries.getText? i.values name = (i.own? name).or
    (Entries.getText? i.callerContext name)
  /-- The caller has no say in a value of the run just if there is one. -/
  owned : ∀ name ∈ ownNames,
    (∀ entries, Entries.getText? (i.ofCaller entries).values name =
      (i.ofCaller entries).own? name) ↔
      (i.own? name).isSome
  /-- Neither has it in a prompt that mentions no other value of the run, and not the caller's data
  as a whole. -/
  rendered : ∀ template, ¬Mentions template "caller_context" →
    (∀ name ∈ ownNames, Mentions template name → (i.own? name).isSome) →
      ∀ entries, SameBesides i.callerContext entries →
        interpolate template (i.ofCaller entries).values = interpolate template i.values
  /-- A prompt that mentions a value which the run does not have can be changed by the caller under
  that name. -/
  forged : ∀ template text, interpolate template i.values = .ok text →
    ∀ name ∈ ownNames, Mentions template name → i.own? name = none →
      ∃ v, interpolate template
        (i.ofCaller (Entries.insert i.callerContext (.text name) v)).values ≠ .ok text

theorem isSome_own?_iff (i : StepInput) (name : String) :
    (∀ entries, Entries.getText? (i.ofCaller entries).values name =
      (i.ofCaller entries).own? name) ↔
      (i.own? name).isSome := by
  constructor
  · intro h
    have hforged := h [(.text name, .text "forged")]
    rw [getText?_values] at hforged
    rw [← isSome_own?_ofCaller i [(.text name, .text "forged")]]
    cases hown : (i.ofCaller [(.text name, .text "forged")]).own? name with
    | some v => rfl
    | none =>
      rw [hown, Option.none_or] at hforged
      cases Entries.getText?_cons_self.symm.trans hforged
  · intro h entries
    rw [← isSome_own?_ofCaller i entries] at h
    obtain ⟨v, hv⟩ := Option.isSome_iff_exists.1 h
    rw [getText?_values, hv, Option.some_or]

theorem interpolate_ofCaller (hcaller : ¬Mentions template "caller_context")
    (howned : ∀ name ∈ ownNames, Mentions template name → (i.own? name).isSome)
    (hsame : SameBesides i.callerContext entries) :
    interpolate template (i.ofCaller entries).values = interpolate template i.values := by
  refine interpolate_congr fun name hmentions => ?_
  have hne : name ≠ "caller_context" := fun heq => hcaller (heq ▸ hmentions)
  rw [getText?_values, getText?_values, own?_ofCaller hne]
  by_cases hname : name ∈ ownNames
  · obtain ⟨v, hv⟩ := Option.isSome_iff_exists.1 (howned name hname hmentions)
    rw [hv, Option.some_or, Option.some_or]
  · rw [own?_of_not_mem hname, Option.none_or, Option.none_or]
    exact (hsame name hname).symm

/-- A value without a text, under a name that the run leaves free, keeps the prompt from being
made. -/
theorem interpolate_forged {name : String} (hmentions : Mentions template name)
    (hnone : i.own? name = none) :
    interpolate template
      (i.ofCaller (Entries.insert i.callerContext (.text name) (.unprintable "forged"))).values ≠
      .ok text := by
  have hne : name ≠ "caller_context" := by
    rintro rfl
    cases hnone
  apply interpolate_of_unprintable hmentions
  rw [getText?_values, own?_ofCaller hne, hnone, Option.none_or]
  exact (Entries.getText?_insert ..).trans (if_pos rfl)

theorem shadows (i : StepInput) : i.Shadows where
  values := i.getText?_values
  owned := fun name _ => i.isSome_own?_iff name
  rendered := fun _ hcaller howned _ => interpolate_ofCaller hcaller howned
  forged := fun _ _ _ _ _ hmentions hnone => ⟨_, interpolate_forged hmentions hnone⟩

/-- The values of a step lie over those of its caller. In a run there is a value of an earlier step
if the step names one for it that has run and left an output, and there are collected values if the
step asks for any. -/
theorem values_lie_over_caller (i : StepInput) (c : Context) (s : Step) :
    i.Shadows ∧
      (∀ entries, { c with callerContext := entries }.inputFor s =
        (c.inputFor s).ofCaller entries) ∧
      (∀ name ∈ ["query", "caller_context"], ((c.inputFor s).own? name).isSome) ∧
      (((c.inputFor s).own? "previous_step_data").isSome ↔ ∃ inputs id r, s.inputs = some inputs ∧
        inputs.fromStep = some id ∧ id ≠ "" ∧ c.result? id = some r ∧ r.output.isNull = false) ∧
      (((c.inputFor s).own? "context_data").isSome ↔ ∃ inputs ids, s.inputs = some inputs ∧
        inputs.fromContext = some ids) := by
  refine ⟨i.shadows, fun _ => rfl, by simp [own?], ?_, ?_⟩
  · have hprevious : (c.inputFor s).previous.isNull = false ↔
        ∃ r, (s.inputs.bind fun i => given? i.fromStep).bind c.result? = some r ∧
        r.output.isNull = false := by
      unfold Context.inputFor
      dsimp only
      cases (s.inputs.bind fun i => given? i.fromStep).bind c.result? <;> simp [Value.isNull]
    have hown : ((c.inputFor s).own? "previous_step_data").isSome ↔
        (c.inputFor s).previous.isNull = false := by
      cases h : (c.inputFor s).previous.isNull <;> simp [own?, h]
    rw [hown, hprevious]
    constructor
    · rintro ⟨r, hr, houtput⟩
      obtain ⟨id, hid, hr⟩ := Option.bind_eq_some_iff.1 hr
      obtain ⟨inputs, hinputs, hgiven⟩ := Option.bind_eq_some_iff.1 hid
      obtain ⟨hfrom, hne⟩ := given?_eq_some_iff.1 hgiven
      exact ⟨inputs, id, r, hinputs, hfrom, hne, hr, houtput⟩
    · rintro ⟨inputs, id, r, hinputs, hfrom, hne, hr, houtput⟩
      refine ⟨r, ?_, houtput⟩
      rw [hinputs, Option.bind_some, given?_eq_some_iff.2 ⟨hfrom, hne⟩, Option.bind_some, hr]
  · cases hinputs : s.inputs with
    | none => simp [own?, Context.inputFor, hinputs]
    | some inputs =>
      cases hids : inputs.fromContext <;> simp [own?, Context.inputFor, hinputs, hids]

/-- What a caller puts under a name of the run is found there in a step that asks for no earlier
step. -/
theorem not_every_value_is_owned :
    ¬∀ (i : StepInput), ∀ name ∈ ownNames, ∀ v, Entries.getText? i.values name = some v →
      v = (i.own? name).getD .null := by
  intro h
  have hforged := h { callerContext := [(.text "previous_step_data", .text "forged")] }
    "previous_step_data" (by decide) (.text "forged") rfl
  cases hforged

end StepInput
end StepFlow
