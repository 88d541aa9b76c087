import StepFlow.Yaml.Merge
import StepFlow.Yaml.Reading

/-! What the nodes of a document hold. Collections are filled level by level, each once for all who
have it as a part, so that one may even be a part of itself. -/
namespace StepFlow.Yaml

inductive Content where
  | atom (v : Value)
  | list (items : List Nat)
  | mapping (entries : List (Nat × Nat))
  | set (members : List Nat)
  | pairs (items : List (Nat × Nat))
deriving Repr, Inhabited

structure Filling where
  graph : Graph
  /-- At least the number of entries in the document. -/
  bound : Nat
  /-- What each node holds; none before it is asked for. -/
  contents : Array (Option Content)
  /-- The collections in the order in which they are filled. -/
  collections : Array Nat := #[]

abbrev Fill := StateT Filling (Except Issue)

namespace Fill

def malformed {α : Type} : Fill α := throw .malformed

def merging (m : Merging Unit) : Fill Unit := fun s => do
  let ((), graph) ← m s.graph
  return ((), { s with graph })

def content? (number : Nat) : Fill (Option Content) := do return ((← get).contents.getD number none)

def setContent (number : Nat) (c : Content) : Fill Unit :=
  modify fun s => { s with contents := s.contents.setIfInBounds number (some c) }

/-- The text of a node with a scalar tag; a mapping has that of the value which stands for it. -/
def scalarText? (g : Graph) : Nat → Nat → Option (List Char)
  | 0, _ => none
  | fuel + 1, number =>
    match g.form number with
    | .scalar text => some text
    | .mapping entries =>
      (entries.find? fun e => g.tag e.1 = .value).bind fun e => scalarText? g fuel e.2
    | .sequence _ => none

def ask (number : Nat) : Fill Unit := do
  if (← content? number).isSome then return
  let g := (← get).graph
  let t := g.tag number
  if t.isCollection then
    setContent number (.list [])
    modify fun s => { s with collections := s.collections.push number }
  else match scalarText? g (g.size + 1) number with
    | some text => setContent number (.atom (← readScalar t text))
    | none => malformed

def keyValue (number : Nat) : Fill Value := do
  if (← get).graph.tag number |>.isCollection then malformed
  else match ← content? number with
    | some (.atom v) => return v
    | _ => malformed

/-- What is no number is the same key only if it comes from one node, or from the word for it. -/
def isSameNaN (k l : Nat) : Fill Bool := do
  let g := (← get).graph
  let isWord (n : Nat) : Bool := (((scalarText? g (g.size + 1) n).map isNaNWord).getD false)
  return k = l || (isWord k && isWord l)

def isSameKey (k l : Nat) : Fill Bool := do
  let (v, w) := (← keyValue k, ← keyValue l)
  match v, w with
  | .float .nan, .float .nan => isSameNaN k l
  | _, _ => return v.sameKey w

/-- Sets the value under a key: in place if the key is there, at the end otherwise. -/
def insert (key value : Nat) : List (Nat × Nat) → Fill (List (Nat × Nat))
  | [] => return [(key, value)]
  | (k, v) :: rest => do
    if ← isSameKey k key then return (k, value) :: rest
    else return (k, v) :: (← insert key value rest)

def fillEntries (number : Nat) : Fill (List (Nat × Nat)) := do
  match (← get).graph.form number with
  | .mapping _ =>
    merging (flatten (← get).bound number)
    ((← get).graph.entries number).foldlM (fun filled (k, v) => do
      ask k
      let _ ← keyValue k
      ask v
      insert k v filled) []
  | _ => malformed

def fillPair (number : Nat) : Fill (Nat × Nat) := do
  match (← get).graph.form number with
  | .mapping [(k, v)] =>
    ask k
    ask v
    return (k, v)
  | _ => malformed

def fill (number : Nat) : Fill Unit := do
  let g := (← get).graph
  match g.tag number, g.form number with
  | .seq, .sequence items =>
    items.forM ask
    setContent number (.list items)
  | .pairs, .sequence items => setContent number (.pairs (← items.mapM fillPair))
  | .map, _ => setContent number (.mapping (← fillEntries number))
  | .set, _ => setContent number (.set ((← fillEntries number).map Prod.fst))
  | _, _ => malformed

def fillFrom : Nat → Nat → Fill Unit
  | 0, _ => return
  | fuel + 1, position => do
    match (← get).collections[position]? with
    | none => return
    | some number =>
      fill number
      fillFrom fuel (position + 1)

end Fill

/-- What the nodes that the root leads to hold. Every collection is filled once, so the number of
nodes bounds them. -/
def Graph.contents (g : Graph) (root : Nat) : Except Issue (Array (Option Content)) := do
  let s : Filling := { graph := g, bound := g.entryCount, contents := Array.replicate g.size none }
  let ((), s) ← (do Fill.ask root; Fill.fillFrom (g.size + 1) 0 : Fill Unit) s
  return s.contents

/-! ## Values -/

/-- How often a collection may stand on the way to one of its parts before it is cut off. Only one
that is a part of itself ever comes to more than one. -/
def maxTurns : Nat := 3

/-- What is left of a collection where it is cut off: one of its kind without items. -/
def Content.cutOff : Content → Value
  | .atom v => v
  | .list _ | .pairs _ => .list []
  | .mapping _ => .mapping []
  | .set _ => .set []

abbrev Known := StateM (Array (Option Value))

/-- The value of a node behind those on the way to it, and whether a part of it is cut off. -/
def valueAt (cs : Array (Option Content)) : Nat → List Nat → Nat → Known (Value × Bool)
  | 0, _, _ => return (.null, true)
  | fuel + 1, way, number => do
    let content := (cs.getD number none).getD (.atom .null)
    match (← get).getD number none with
    | some v => return (v, false)
    | none =>
      if maxTurns ≤ way.count number then return (content.cutOff, true)
      else
        let part := valueAt cs fuel (number :: way)
        let parts (ns : List Nat) : Known (List Value × Bool) := do
          let ps ← ns.mapM part
          return (ps.map Prod.fst, ps.any Prod.snd)
        let pairs (ns : List (Nat × Nat)) : Known (List (Value × Value) × Bool) := do
          let ps ← ns.mapM fun (k, v) => do return (← part k, ← part v)
          return (ps.map fun (k, v) => (k.1, v.1), ps.any fun (k, v) => k.2 || v.2)
        let (v, cut) ← match content with
          | .atom v => pure (v, false)
          | .list items => (fun (vs, cut) => (.list vs, cut)) <$> parts items
          | .set members => (fun (vs, cut) => (.set vs, cut)) <$> parts members
          | .mapping entries => (fun (es, cut) => (.mapping es, cut)) <$> pairs entries
          | .pairs items =>
            (fun (es, cut) => (.list (es.map fun (k, v) => .tuple [k, v]), cut)) <$> pairs items
        unless cut do modify fun known => known.setIfInBounds number (some v)
        return (v, cut)

/-- The value of the root. On a way into the document no node stands more often than `maxTurns`. -/
def valueOf (cs : Array (Option Content)) (root : Nat) : Value :=
  ((valueAt cs (cs.size * maxTurns + 1) [] root).run (Array.replicate cs.size none)).1.1

end StepFlow.Yaml
