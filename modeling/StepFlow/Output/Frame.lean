import StepFlow.Json.Writer

/-! The events of a stream and their frames as server-sent messages. -/
namespace StepFlow

structure StreamEvent where
  type : String
  data : Entries := []
deriving Repr, Inhabited

namespace StreamEvent

def ofFields (type : String) (fields : List (String × Value)) : StreamEvent :=
  ⟨type, fields.map fun (k, v) => (.text k, v)⟩

def toValue (e : StreamEvent) : Value := .record [("type", .text e.type), ("data", .mapping e.data)]

/-- The event as one message: a single line of data and an empty line. -/
def frame (e : StreamEvent) : Except Fault String := do
  return "data: " ++ (← Json.render Json.compact e.toValue) ++ "\n\n"

/-- The event that reports a refusal, with further fields that win over those of the report. -/
def ofFault (f : Fault) (extra : Entries) : StreamEvent :=
  let e := ofFields "error" f.report
  { e with data := extra.foldl (fun es (k, v) => Entries.insert es k v) e.data }

end StreamEvent
end StepFlow
