import StepFlow.Text.Word
import StepFlow.Value.Access

/-! Prompt templates: text in which a word between braces stands for the value of that name. -/
namespace StepFlow.Template

inductive Segment where
  | char (c : Char)
  | token (name : List Char)
deriving DecidableEq, Repr

def Segment.source : Segment → List Char
  | char c => [c]
  | token name => '\x7b' :: name ++ ['\x7d']

def token? (cs : List Char) : Option (List Char × List Char) :=
  let name := cs.takeWhile Text.isWord
  match cs.dropWhile Text.isWord with
  | '\x7d' :: rest => if name.isEmpty then none else some (name, rest)
  | _ => none

theorem length_of_token? {cs name rest : List Char} (h : token? cs = some (name, rest)) :
    rest.length < cs.length := by
  unfold token? at h
  have hlen := congrArg List.length (List.takeWhile_append_dropWhile (p := Text.isWord) (l := cs))
  simp only [List.length_append] at hlen
  split at h
  · next r heq =>
    dsimp only at h
    split at h
    · simp at h
    · simp only [Option.some.injEq, Prod.mk.injEq] at h
      obtain ⟨-, rfl⟩ := h
      simp only [heq, List.length_cons] at hlen
      omega
  · simp at h

def tokenAt? (c : Char) (cs : List Char) : Option (List Char × List Char) :=
  if c = '\x7b' then token? cs else none

theorem length_of_tokenAt? {c : Char} {cs name rest : List Char}
    (h : tokenAt? c cs = some (name, rest)) :
    rest.length < cs.length := by
  unfold tokenAt? at h
  split at h
  · exact length_of_token? h
  · simp at h

/-- Splits a template from the left. A brace that opens no token is a character like any other. -/
def segments : List Char → List Segment
  | [] => []
  | c :: cs =>
    match h : tokenAt? c cs with
    | some (name, rest) =>
      have := length_of_tokenAt? h
      .token name :: segments rest
    | none => .char c :: segments cs
termination_by cs => cs.length
decreasing_by all_goals (simp only [List.length_cons]; omega)

/-- The text that a piece becomes. A token without a value stays as it is. -/
def Segment.fill (values : Entries) : Segment → Except Fault (List Char)
  | char c => .ok [c]
  | token name => match values.getText? (String.ofList name) with
    | none | some .null => .ok (Segment.source (token name))
    | some v => do return (← v.toText).toList

def fillAll (values : Entries) : List Segment → Except Fault (List Char)
  | [] => .ok []
  | s :: rest => do
    let text ← s.fill values
    return text ++ (← fillAll values rest)

def interpolate (template : String) (values : Entries) : Except Fault String := do
  return String.ofList (← fillAll values (segments template.toList))

end StepFlow.Template
