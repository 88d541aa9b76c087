/-! Sets of characters, given by sorted closed ranges of code points and searched by bisection. -/
namespace StepFlow.Text

/-- Sorted, disjoint, closed ranges of code points. -/
structure CharSet where
  ranges : Array (Nat × Nat)

namespace CharSet

/-- Bisection: the ranges before `lo` end below `n`, those from `hi` on start above it. -/
def search (ranges : Array (Nat × Nat)) (n lo hi : Nat) : Bool :=
  if lo < hi then
    match ranges[(lo + hi) / 2]? with
    | none => false
    | some (first, last) =>
      if n < first then search ranges n lo ((lo + hi) / 2)
      else if last < n then search ranges n ((lo + hi) / 2 + 1) hi
      else true
  else false
termination_by hi - lo
decreasing_by all_goals omega

def contains (s : CharSet) (c : Char) : Bool := search s.ranges c.toNat 0 s.ranges.size

end CharSet
end StepFlow.Text
