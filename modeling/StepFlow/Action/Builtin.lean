import StepFlow.Action.Job

/-! The built-in handlers: each reads its options from the step's configuration, asks the worker
once, and hands on the reply. -/
namespace StepFlow.Handler

/-- An option by the first of its two names that is set, or its default. -/
def option (config : List (String × Value)) (name camelName : String) (default : Value) : Value :=
  let get (n : String) := (config.lookup n).getD .null
  let v := if (get name).isNull then get camelName else get name
  if v.isNull then default else v

def promptOr (c : ActionContext) (template : String) : Except Fault String :=
  if c.prompt.isEmpty then Template.interpolate template c.values else .ok c.prompt

def search : Handler where
  name := "search"
  job _ c :=
    let config := c.step.config
    .ofExcept (promptOr c "Search for: \x7bquery\x7d") fun query =>
    .think "search_planning" ("Planning search for: " ++ query) .null <|
    .ofExcept (option config "max_results" "maxResults" (.int 10)).toInt fun maxResults =>
    .forward <| .search query (option config "search_type" "searchType" (.text "web"))
      (option config "search_depth" "searchDepth" (.text "standard")) maxResults
      (option config "time_range" "timeRange" (.text "all"))
      (option config "include_images" "includeImages" (.bool false)).isTruthy

/-- The data to analyse: the previous output, else the collected ones, else everything. -/
def analysisData (i : StepInput) : Value :=
  if i.previous.isNull then .mapping (i.contextData.getD i.values) else i.previous

def analyze : Handler where
  name := "analyze"
  job i c :=
    let config := c.step.config
    let analysisType := option config "analysis_type" "analysisType" (.text "general")
    .ofExcept analysisType.toText fun text =>
    .think "analysis" ("Starting " ++ text ++ " analysis...") .null <|
    .forward <| .analyze (analysisData i) c.prompt analysisType
      (option config "include_confidence" "includeConfidence" (.bool true)).isTruthy

def synthesize : Handler where
  name := "synthesize"
  job i c :=
    let config := c.step.config
    let sources := i.gatherSources
    .think "synthesis" s!"Synthesizing {sources.length} sources..." .null <|
    .forward <| .synthesize sources c.prompt (option config "output_format"
      "outputFormat" (.text "summary"))
      (option config "include_sources" "includeSources" (.bool true)).isTruthy
      (option config "include_confidence" "includeConfidence" (.bool true)).isTruthy

def previousResults (i : StepInput) : Except Fault (List Value) :=
  match i.previous.part "results" with
  | .value v => if v.isTruthy then v.items else .ok []
  | .method => .error (.notIterable "method")

def compare : Handler where
  name := "compare"
  job i c :=
    let config := c.step.config
    .ofExcept (previousResults i) fun items =>
    .forward <| .compare items (option config "criteria" "criteria" .null)
      (option config "comparison_type" "comparisonType" (.text "detailed"))

def recommendConfidence : Binary64 := Binary64.ofDecimal false 8 (-1)

def recommend : Handler where
  name := "recommend"
  job _ c :=
    .ofExcept (promptOr c "Provide recommendations based on the analysis") fun prompt =>
    .ofExcept (option c.step.config "temperature" "temperature"
      (.float (Binary64.ofDecimal false 5 (-1)))).toReal
      fun temperature =>
    .ask (.recommend prompt temperature) fun reply => .finish <| match reply with
      | .text _ => .record [("recommendations", reply), ("confidence", .float recommendConfidence)]
      | _ => reply

def custom : Handler where
  name := "custom"
  job i c :=
    if c.step.prompt.isEmpty then .fail .promptRequired
    else
      .ofExcept (option c.step.config "temperature" "temperature"
        (.float (Binary64.ofDecimal false 7 (-1)))).toReal
        fun temperature =>
      .ask (.custom c.prompt temperature i.values) fun reply => .finish <| match reply with
        | .text _ => .record [("result", reply)]
        | _ => reply

def builtin : ActionKind → Handler
  | .search => search
  | .analyze => analyze
  | .synthesize => synthesize
  | .compare => compare
  | .recommend => recommend
  | .custom => custom

end StepFlow.Handler
