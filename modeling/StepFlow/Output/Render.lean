import StepFlow.Flow.Basic
import StepFlow.Json.Writer
import StepFlow.Output.Format

/-! The presentation of an output: as it is, as prose, as a report or as markup. -/
namespace StepFlow.Output

def truthyPart? (v : Value) (name : String) : Option Part :=
  match v.part name with
  | .value w => if w.isTruthy then some (.value w) else none
  | .method => some .method

/-- The text of a part. Something that can only be called has a text of no fixed form. -/
def partText : Part → Except Fault String
  | .value v => v.toText
  | .method => .ok "<method>"

def partItems : Part → Except Fault (List Value)
  | .value v => v.items
  | .method => .error (.notIterable "method")

def partLine (v : Value) (name before after : String) : Except Fault String :=
  match truthyPart? v name with
  | some p => do return before ++ (← partText p) ++ after ++ "\n"
  | none => .ok ""

def resultBlock (number : Nat) (item : Value) : Except Fault String := do
  let title ← match truthyPart? item "title" with
    | some p => partText p
    | none => .ok "Untitled"
  let snippet ← partLine item "snippet" "" ""
  let url ← partLine item "url" "[Source](" ")"
  return s!"## {number}. " ++ title ++ "\n" ++ snippet ++ url ++ "\n"

def sourceLine (number : Nat) (source : Value) : Except Fault String :=
  match source with
  | .text s => .ok (s!"{number}. " ++ s ++ "\n")
  | source => do
    let title ← partText (source.part "title")
    let url ← partText (source.part "url")
    return s!"{number}. [" ++ title ++ "](" ++ url ++ ")\n"

def numbered (entry : Nat → Value → Except Fault String) (number : Nat) :
    List Value → Except Fault String
  | [] => .ok ""
  | x :: xs => do
    let text ← entry number x
    return text ++ (← numbered entry (number + 1) xs)

/-- The parts that make up prose, the first that counts as true. -/
def proseKeys : List String := ["synthesis", "analysis", "recommendations"]

def dump (output : Value) : Except Fault String := Json.render Json.indented output

def proseBody (output : Value) : Except Fault String :=
  match proseKeys.findSome? (truthyPart? output), truthyPart? output "results" with
  | some p, _ => partText p
  | none, some results => do
    return "# Search Results\n\n" ++ (← numbered resultBlock 1 (← partItems results))
  | none, none => dump output

def proseSources (output : Value) (includeSources : Bool) : Except Fault String :=
  match includeSources, truthyPart? output "sources" with
  | true, some sources => do
    return "\n\n## Sources\n\n" ++ (← numbered sourceLine 1 (← partItems sources))
  | _, _ => .ok ""

def prose (output : Value) (includeSources : Bool) : Except Fault String :=
  match output with
  | .text s => .ok s
  | output => do
    let body ← proseBody output
    return body ++ (← proseSources output includeSources)

def report (output : Value) (title : Option String) (generatedAt : Option Moment) :
    Except Fault String := do
  let head := "# " ++ (given? title).getD "Analysis Report" ++ "\n\n" ++
    (generatedAt.map fun m => "Generated: " ++ m.toIso " " true ++ "\n\n").getD ""
  match output with
  | .text s => return head ++ s
  | output => match ["synthesis", "analysis"].findSome? (truthyPart? output) with
    | some p => return head ++ (← partText p)
    | none => return head

def markup (output : Value) : Except Fault String := do
  return "<div class=\"flow-output\">" ++ (← dump output) ++ "</div>"

/-- Renders an output. Without a specification, and in an unknown format, it stays as it is. -/
def format (output : Value) (spec : Option OutputSpec) (generatedAt : Option Moment) :
    Except Fault Value :=
  match spec, (spec.bind fun s => OutputFormat.parse? s.format) with
  | some s, some .prose => do return .text (← prose output s.includeSources)
  | some s, some .report => do return .text (← report output s.title generatedAt)
  | some _, some .markup => do return .text (← markup output)
  | _, _ => .ok output

end StepFlow.Output
