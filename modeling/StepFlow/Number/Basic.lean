/-! Powers and sums of natural numbers. -/
namespace StepFlow

def twoTo (k : Nat) : Nat := Nat.pow 2 k

def tenTo (k : Nat) : Nat := Nat.pow 10 k

def total : List Nat → Nat
  | [] => 0
  | n :: ns => n + total ns

end StepFlow
