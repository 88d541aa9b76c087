import StepFlow.Flow.Parse
import StepFlow.Table

/-! Flows by id, in the order in which their ids were first given, and the loading of a mapping of
definitions. -/
namespace StepFlow

abbrev Catalog := List (String × Flow)

namespace Catalog

def get? (c : Catalog) (id : String) : Option Flow := c.lookup id

def ids (c : Catalog) : List String := c.map Prod.fst

/-- Adds a flow, in the place of the one with the same id if there is one. -/
def insert (c : Catalog) (f : Flow) : Catalog := assign f.id f c

end Catalog

/-- What stands for a flow: the data that it is read from, or the flow itself. -/
inductive Definition where
  | raw (data : Value)
  | flow (f : Flow)

/-- The flow that is meant. Data without an id get the one that they are known by. -/
def Definition.parse (d : Definition) (knownAs : Value) : Except Fault Flow :=
  match d with
  | .raw data => Flow.parse data knownAs
  | .flow f => .ok f

/-- Definitions by key. A definition without id is known by its key. -/
abbrev Definitions := List (Value × Definition)

namespace Definitions

/-- Reads every definition; of two with the same id the later one is kept. -/
def load (ds : Definitions) : Except Fault Catalog :=
  ds.foldlM (fun c (key, d) => do return c.insert (← d.parse key)) []

def describe (ds : Definitions) : Except Fault String := do
  return "MappingFlowLoader(flows=" ++ (← (Value.list (ds.map Prod.fst)).literalText) ++ ")"

end Definitions
end StepFlow
