import StepFlow.Yaml.Cursor
import StepFlow.Yaml.Node

/-! Merge keys: a mapping takes over the entries of others, its own entries replace those. This
changes the mapping for all who have it as a part. -/
namespace StepFlow.Yaml

abbrev Merging := StateT Graph (Except Issue)

namespace Merging

def entries (number : Nat) : Merging (List (Nat × Nat)) := do return (← get).entries number

def setEntries (number : Nat) (es : List (Nat × Nat)) : Merging Unit :=
  modify fun g => g.setForm number (.mapping es)

/-- A key that may stand for the whole mapping is from now on an ordinary text. -/
def settleKey (key : Nat) : Merging Unit :=
  modify fun g => if g.tag key = .value then g.setTag key .str else g

/-- Takes over entries from position `start` on; `merged` are those that have been found so far, to
be set in front at the end. Every merge key is removed when it is met, so their number bounds the
depth. Of several mappings in a sequence the first counts most, so it comes last. -/
def mergeFrom : Nat → Nat → Nat → List (Nat × Nat) → Merging Unit
  | 0, _, _, _ => throw .malformed
  | fuel + 1, number, start, merged => do
    let es ← entries number
    let g ← get
    let ahead := (es.drop start).takeWhile fun e => g.tag e.1 ≠ .merge
    let position := start + ahead.length
    ahead.forM fun e => settleKey e.1
    match es.drop position with
    | [] => unless merged.isEmpty do setEntries number (merged ++ es)
    | (_, source) :: rest =>
      setEntries number (es.take position ++ rest)
      let flat (n : Nat) : Merging (List (Nat × Nat)) := do
        match (← get).form n with
        | .mapping _ => mergeFrom fuel n 0 []; entries n
        | _ => throw .malformed
      let more ← match (← get).form source with
        | .sequence items => do pure (← items.mapM flat).reverse.flatten
        | _ => flat source
      mergeFrom fuel number position (merged ++ more)

end Merging

/-- Carries out the merge keys of a mapping; `bound` is at least the number of entries in the
document. -/
def flatten (bound number : Nat) : Merging Unit := Merging.mergeFrom (bound + 2) number 0 []

end StepFlow.Yaml
