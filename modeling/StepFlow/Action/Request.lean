import StepFlow.Prompt.Input
import StepFlow.Vocabulary

/-! What a handler asks of a worker: one form for every kind of action. -/
namespace StepFlow

inductive Request where
  | search (query : String) (searchType searchDepth : Value) (maxResults : Int) (timeRange : Value)
      (includeImages : Bool)
  | analyze (data : Value) (prompt : String) (analysisType : Value) (includeConfidence : Bool)
  | synthesize (sources : List Value) (prompt : String) (outputFormat : Value)
    (includeSources includeConfidence : Bool)
  | compare (items : List Value) (criteria comparisonType : Value)
  | recommend (prompt : String) (temperature : Binary64)
  | custom (prompt : String) (temperature : Binary64) (bindings : Entries)
  /-- A request made without a handler: an action with a prompt. -/
  | direct (action : ActionKind) (prompt : String)
deriving Repr, Inhabited

namespace Request

def action : Request → ActionKind
  | search .. => .search
  | analyze .. => .analyze
  | synthesize .. => .synthesize
  | compare .. => .compare
  | recommend .. => .recommend
  | custom .. => .custom
  | direct a _ => a

def typeName : Request → String
  | search .. => "SearchRequest"
  | analyze .. => "AnalyzeRequest"
  | synthesize .. => "SynthesizeRequest"
  | compare .. => "CompareRequest"
  | recommend .. => "RecommendRequest"
  | custom .. => "CustomRequest"
  | direct .. => "Obj"

def fields : Request → List (String × Value)
  | search query searchType searchDepth maxResults timeRange includeImages =>
    [("query", .text query), ("search_type", searchType), ("search_depth", searchDepth),
      ("max_results", .int maxResults), ("time_range", timeRange),
        ("include_images", .bool includeImages)]
  | analyze data prompt analysisType includeConfidence =>
    [("data", data), ("prompt", .text prompt), ("analysis_type", analysisType),
      ("include_confidence", .bool includeConfidence)]
  | synthesize sources prompt outputFormat includeSources includeConfidence =>
    [("sources", .list sources), ("prompt", .text prompt), ("output_format", outputFormat),
      ("include_sources", .bool includeSources), ("include_confidence", .bool includeConfidence)]
  | compare items criteria comparisonType =>
    [("items", .list items), ("criteria", criteria), ("comparison_type", comparisonType)]
  | recommend prompt temperature => [("prompt", .text prompt), ("temperature", .float temperature)]
  | custom prompt temperature bindings =>
    [("prompt", .text prompt), ("temperature", .float temperature),
      ("variables", .mapping bindings)]
  | direct _ prompt => [("prompt", .text prompt)]

def toValue (r : Request) : Value :=
  match r with
  | direct a prompt => .object [("action", .text a.name), ("prompt", .text prompt)] "<obj>"
  | r => .record (("type", .text r.typeName) :: ("action", .text r.action.name) :: r.fields)

def prompt (r : Request) : Except Fault Value :=
  match r.fields.lookup "prompt" with
  | some p => .ok p
  | none => .error (.noAttribute r.typeName "prompt")

end Request
end StepFlow
