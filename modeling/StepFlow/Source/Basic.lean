import StepFlow.Source.Directory

/-! Where flows come from. -/
namespace StepFlow

inductive Source where
  | definitions (ds : Definitions)
  | directory (d : Directory)

def Source.load : Source → Except Fault Catalog
  | definitions ds => ds.load
  | directory d => d.load

end StepFlow
