import StepFlow.Output.Frame
import StepFlow.Proofs.Json.Ascii

/-!
# Frames

Between its mark and the empty line that ends it, a frame is one line.
-/
namespace StepFlow.StreamEvent
variable {e : StreamEvent} {s : String}

theorem frame_eq_ok : e.frame = .ok s ↔
    ∃ payload, Json.render Json.compact e.toValue = .ok payload ∧
    s = "data: " ++ payload ++ "\n\n" := by
  constructor
  · intro h
    obtain ⟨payload, hrender, hpure⟩ := bind_eq_ok.1 h
    cases hpure
    exact ⟨payload, hrender, rfl⟩
  · rintro ⟨payload, hrender, rfl⟩
    exact bind_eq_ok.2 ⟨payload, hrender, rfl⟩

/-- No text, no key and no object in an event breaks the line of its frame, which holds the event as
JSON. -/
theorem frame_is_one_line (h : e.frame = .ok s) :
    ∃ line, Json.render Json.compact e.toValue = .ok line ∧ s = "data: " ++ line ++ "\n\n" ∧
      ∀ c ∈ line.toList, 0x20 ≤ c.toNat ∧ c.toNat ≤ 0x7E := by
  obtain ⟨payload, hrender, rfl⟩ := frame_eq_ok.1 h
  obtain ⟨cs, hwrite, hpure⟩ := bind_eq_ok.1 hrender
  cases hpure
  have hline : Text.AsciiLine cs := Json.asciiLine_write e.toValue hwrite
  rw [← String.toList_ofList (l := cs)] at hline
  exact ⟨String.ofList cs, hrender, rfl, hline⟩

/-- Breaks of lines in the type, in a key, in a text and in the text of an object. -/
def unruly : StreamEvent where
  type := "\n"
  data := [(.text "\r", .tuple [.text "\u2028"]), (.null, .object [] "\ndata: x")]

theorem unruly_is_one_line :
    let s :=
      "data: \x7b\"type\": \"\\n\", \"data\": \x7b\"\\r\": [\"\\u2028\"], \"null\": \"\\ndata: x\"\x7d\x7d\n\n"
    unruly.frame = .ok s ∧
      ∃ line, Json.render Json.compact unruly.toValue = .ok line ∧ s = "data: " ++ line ++ "\n\n" ∧
        ∀ c ∈ line.toList, 0x20 ≤ c.toNat ∧ c.toNat ≤ 0x7E :=
  ⟨rfl, frame_is_one_line (e := unruly) rfl⟩

end StepFlow.StreamEvent
