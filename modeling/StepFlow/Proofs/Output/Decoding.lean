import StepFlow.Output.Render
import StepFlow.Proofs.Json.RoundTrip
import StepFlow.Proofs.Output.Frame

/-!
# Decoding what was presented

The JSON inside markup and inside a frame is read back by the reader of flow files.
-/
namespace StepFlow
open Json

variable {v : Value} {spec : OutputSpec} {fields : List (String × Value)}

theorem Output.markup_reads (hv : Plain v) (hspec : OutputFormat.parse? spec.format = some .markup)
    (generatedAt : Option Moment) :
    ∃ text, format v (some spec) generatedAt =
      .ok (.text ("<div class=\"flow-output\">" ++ text ++ "</div>")) ∧
      ∀ limit, (parseWithin limit text = .ok v ↔ v.nesting ≤ limit) := by
  obtain ⟨text, hrender, hread⟩ := render_reads hv indented
  refine ⟨text, ?_, hread⟩
  have hmarkup : markup v = .ok ("<div class=\"flow-output\">" ++ text ++ "</div>") :=
    bind_eq_ok.2 ⟨text, hrender, rfl⟩
  unfold format
  simp only [Option.bind_some, hspec]
  exact bind_eq_ok.2 ⟨_, hmarkup, rfl⟩

theorem StreamEvent.frame_reads (h : Plain (.record fields)) (type : String) :
    ∃ payload, (ofFields type fields).frame = .ok ("data: " ++ payload ++ "\n\n") ∧
      ∀ limit, (parseWithin limit payload =
        .ok (.record [("type", .text type), ("data", .record fields)]) ↔
        (Value.record fields).nesting < limit) := by
  have hplain : Plain (.record [("type", .text type), ("data", .record fields)]) := by
    refine .record (by simp) ?_
    intro f hf
    rcases List.mem_cons.1 hf with rfl | hdata
    · exact .text type
    · rw [List.mem_singleton.1 hdata]
      exact h
  obtain ⟨payload, hrender, hread⟩ := render_reads hplain compact
  refine ⟨payload, frame_eq_ok.2 ⟨payload, hrender, rfl⟩, fun limit => (hread limit).trans ?_⟩
  have hnesting : (Value.record [("type", .text type), ("data", .record fields)]).nesting =
      (Value.record fields).nesting + 1 := by
    simp [Value.record, Value.nesting, Value.nestingOfEntries]
  omega

/-- What JSON has a form for, nested no deeper than the reader follows, is read back from markup,
from a frame and from any layout. No two values have one text, however deeply they are nested. -/
theorem Output.presented_decodes :
    (∀ (v : Value) (spec : OutputSpec) (generatedAt : Option Moment), Plain v →
      v.nesting ≤ maxDepth → OutputFormat.parse? spec.format = some .markup →
      ∃ text, format v (some spec) generatedAt =
        .ok (.text ("<div class=\"flow-output\">" ++ text ++ "</div>")) ∧ parse text = .ok v) ∧
    (∀ (type : String) (fields : List (String × Value)), Plain (.record fields) →
      (Value.record fields).nesting < maxDepth →
      ∃ payload, (StreamEvent.ofFields type fields).frame = .ok ("data: " ++ payload ++ "\n\n") ∧
        parse payload = .ok (.record [("type", .text type), ("data", .record fields)])) ∧
    (∀ (v : Value), Plain v → v.nesting ≤ maxDepth → ∀ l : Layout, ∃ text, render l v = .ok text ∧
      parse text = .ok v) ∧
    ∀ (v w : Value) (l l' : Layout) (text : String), Plain v → Plain w → render l v = .ok text →
      render l' w = .ok text → v = w := by
  refine ⟨?_, ?_, ?_, ?_⟩
  · intro v spec generatedAt hv hdepth hspec
    obtain ⟨text, hformat, hread⟩ := markup_reads hv hspec generatedAt
    exact ⟨text, hformat, (hread maxDepth).2 hdepth⟩
  · intro type fields h hdepth
    obtain ⟨payload, hframe, hread⟩ := StreamEvent.frame_reads h type
    exact ⟨payload, hframe, (hread maxDepth).2 hdepth⟩
  · intro v hv hdepth l
    obtain ⟨text, hrender, hread⟩ := render_reads hv l
    exact ⟨text, hrender, (hread maxDepth).2 hdepth⟩
  · intro v w l l' text hv hw hrenderv hrenderw
    exact render_injective hv hw hrenderv hrenderw

def Output.sample : List (String × Value) :=
  [("", .list [.list [], .record []]), ("a\"\n", .text "\\😀"), ("b", .int (-120))]

theorem Output.plain_sample : Plain (.record sample) := by
  have hempty : Plain (.list [.list [], .record []]) := by
    refine .list fun x hx => ?_
    rcases List.mem_cons.1 hx with rfl | hx
    · exact .list nofun
    · rw [List.mem_singleton.1 hx]
      exact .record .nil nofun
  refine .record (by decide) fun f hf => ?_
  rcases List.mem_cons.1 hf with rfl | hf
  · exact hempty
  rcases List.mem_cons.1 hf with rfl | hf
  · exact .text _
  · rw [List.mem_singleton.1 hf]
    exact .int (by decide +kernel)

theorem Output.sample_decodes :
    (∃ text, format (.record sample) (some { format := " HTML " }) none =
        .ok (.text ("<div class=\"flow-output\">" ++ text ++ "</div>")) ∧
        parse text = .ok (.record sample)) ∧
      ∃ payload, (StreamEvent.ofFields "result" sample).frame =
        .ok ("data: " ++ payload ++ "\n\n") ∧
        parse payload = .ok (.record [("type", .text "result"), ("data", .record sample)]) :=
  have hdepth : (Value.record sample).nesting < maxDepth := by decide
  ⟨presented_decodes.1 _ _ none plain_sample (Nat.le_of_lt hdepth) (by decide +kernel),
    presented_decodes.2.1 "result" _ plain_sample hdepth⟩

def Value.nested : Nat → Value
  | 0 => .null
  | n + 1 => .list [nested n]

theorem Value.nesting_nested (n : Nat) : (nested n).nesting = n := by
  induction n with
  | zero => rfl
  | succ n ih => simp [nested, nesting, nestingOfItems, ih]

theorem Value.plain_nested (n : Nat) : Plain (nested n) := by
  induction n with
  | zero => exact .null
  | succ n ih =>
    refine .list fun x hx => ?_
    rw [List.mem_singleton.1 hx]
    exact ih

theorem Output.not_decodes (hv : Plain v) (hdeep : maxDepth < v.nesting)
    (hspec : OutputFormat.parse? spec.format = some .markup) (generatedAt : Option Moment) :
    ¬∃ text, format v (some spec) generatedAt =
      .ok (.text ("<div class=\"flow-output\">" ++ text ++ "</div>")) ∧ parse text = .ok v := by
  rintro ⟨text, hformat, hparse⟩
  obtain ⟨text', hformat', hread⟩ := markup_reads hv hspec generatedAt
  have hsame : text = text' := by
    have hvalue := Except.ok.inj (hformat.symm.trans hformat')
    have htext := Value.text.inj hvalue
    rwa [String.append_left_inj, String.append_right_inj] at htext
  rw [hsame] at hparse
  have hdepth := (hread maxDepth).1 hparse
  omega

/-- One list more than the reader follows. -/
theorem Output.too_deep_to_decode : ¬∀ v, Plain v →
    ∃ text, format v (some { format := "markup" }) none =
      .ok (.text ("<div class=\"flow-output\">" ++ text ++ "</div>")) ∧ parse text = .ok v := by
  intro h
  have hdeep : maxDepth < (Value.nested (maxDepth + 1)).nesting := by
    rw [Value.nesting_nested]
    exact Nat.lt_succ_self maxDepth
  have hplain := Value.plain_nested (maxDepth + 1)
  exact not_decodes hplain hdeep (by decide +kernel) none (h _ hplain)

end StepFlow
