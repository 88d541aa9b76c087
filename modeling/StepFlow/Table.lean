/-! Tables: keys with values, in the order in which the keys were first given. -/
namespace StepFlow

/-- Sets the value under a key: in place if the key is there, at the end otherwise. -/
def assign {κ α : Type} [BEq κ] (key : κ) (value : α) : List (κ × α) → List (κ × α)
  | [] => [(key, value)]
  | (k, v) :: rest => if k == key then (k, value) :: rest else (k, v) :: assign key value rest

def erase {κ α : Type} [BEq κ] (key : κ) (table : List (κ × α)) : List (κ × α) :=
  table.filter fun e => !(e.1 == key)

def hasKey {κ α : Type} [BEq κ] (key : κ) (table : List (κ × α)) : Bool := (table.lookup key).isSome

end StepFlow
