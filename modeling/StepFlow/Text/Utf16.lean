/-! Characters as units of 16 bits: a code point beyond those takes a pair of halves. -/
namespace StepFlow.Text

def units16 (n : Nat) : List Nat :=
  if n < 0x10000 then [n] else [0xD800 + (n - 0x10000) / 0x400, 0xDC00 + (n - 0x10000) % 0x400]

/-- The number is that of a half of a pair, which is no character. -/
def isHalf (n : Nat) : Bool := 0xD800 ≤ n && n < 0xE000

def joinHalves? (first second : Nat) : Option Char :=
  if 0xD800 ≤ first ∧ first < 0xDC00 ∧ 0xDC00 ≤ second ∧ second < 0xE000 then
    some (Char.ofNat (0x10000 + (first - 0xD800) * 0x400 + (second - 0xDC00)))
  else none

/-- The character with a number. A half alone is replaced. -/
def ofUnit (n : Nat) : Char := if isHalf n then Char.ofNat 0xFFFD else Char.ofNat n

def joinPairs : List Nat → List Char
  | first :: second :: ns => match joinHalves? first second with
    | some c => c :: joinPairs ns
    | none => ofUnit first :: joinPairs (second :: ns)
  | [n] => [ofUnit n]
  | [] => []

end StepFlow.Text
