import StepFlow.Yaml.Tag

/-! The nodes of a YAML document. They go by numbers, since by an alias a node is part of several
others, and even of itself. -/
namespace StepFlow.Yaml

inductive Form where
  | scalar (text : List Char)
  | sequence (items : List Nat)
  | mapping (entries : List (Nat × Nat))
deriving Repr, Inhabited

structure Node where
  tag : Tag
  form : Form
deriving Repr

namespace Node

def empty : Node := ⟨.null, .scalar []⟩

end Node

abbrev Graph := Array Node

namespace Graph

def node (g : Graph) (n : Nat) : Node := g.getD n .empty

def tag (g : Graph) (n : Nat) : Tag := (g.node n).tag

def form (g : Graph) (n : Nat) : Form := (g.node n).form

def setTag (g : Graph) (n : Nat) (t : Tag) : Graph := g.modify n fun node => { node with tag := t }

def setForm (g : Graph) (n : Nat) (f : Form) : Graph :=
  g.modify n fun node => { node with form := f }

def entries (g : Graph) (n : Nat) : List (Nat × Nat) :=
  match g.form n with
  | .mapping entries => entries
  | _ => []

def entryCount (g : Graph) : Nat := g.foldl (fun count node => count + match node.form with
  | .mapping entries => entries.length
  | _ => 0) 0

end Graph
end StepFlow.Yaml
