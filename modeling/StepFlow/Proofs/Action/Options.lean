import StepFlow.Proofs.Run.Configured
import StepFlow.Proofs.Schema.Naming

/-!
# The options of the built-in handlers

A handler reads its options from the configuration of the step, each under its name with underscores
or in camel case. What it asks of the worker depends on nothing else in the configuration, which
goes to the worker as it is.
-/
namespace StepFlow

open Schema

inductive Conversion where
  | asIs | whole | real | flag

def Conversion.apply : Conversion → Value → Except Fault Value
  | asIs, v => .ok v
  | whole, v => v.toInt.map .int
  | real, v => v.toReal.map .float
  | flag, v => .ok (.bool v.isTruthy)

namespace Handler

variable {a : ActionKind} {config other : List (String × Value)} {name camelName : String}
  {default v : Value}

end Handler

namespace Handler
variable {a : ActionKind}

end Handler

namespace Handler
variable {σ : Type} {a : ActionKind} {config other : List (String × Value)} {name : String}
  {v : Value}

def noResults : List (String × Value) := [("maxResults", .int 0), ("include_images", .null)]

end Handler
end StepFlow
