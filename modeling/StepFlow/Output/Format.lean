import StepFlow.Flow.Basic
import StepFlow.Text.Blank
import StepFlow.Text.Lower
import StepFlow.Value.Access

/-! The names by which output formats are asked for. -/
namespace StepFlow.OutputFormat

def aliases : List (String × OutputFormat) :=
  [("json", structured), ("markdown", prose), ("md", prose), ("html", markup)]

def parse? (s : String) : Option OutputFormat :=
  let name := String.ofList (Text.lower (Text.strip Text.isBlank s.toList))
  aliases.lookup name <|> ofName? name

def ofValue (v : Value) : Except Fault (Option OutputFormat) := do
  if v.isTruthy then return parse? (← v.toText) else return none

end StepFlow.OutputFormat

namespace StepFlow.Presentation

/-- The specification that was given, none for null; of what is no specification the attributes that
its format needs. Texts have a format of their own, which stands for none. -/
def spec? : Presentation → Except Fault (Option OutputSpec)
  | checked spec => .ok (some spec)
  | given .null | given (.text _) => .ok none
  | given v => do
    match ← OutputFormat.ofValue (← v.ownAttribute "format") with
    | some .prose =>
      return some { format := OutputFormat.prose.name,
                    includeSources := (← v.ownAttribute "include_sources").isTruthy }
    | some .report =>
      let title ← v.ownAttribute "title"
      let heading ← if title.isTruthy then some <$> title.toText else .ok none
      return some { format := OutputFormat.report.name, title := heading }
    | some .markup => return some { format := OutputFormat.markup.name }
    | _ => return none

end StepFlow.Presentation
