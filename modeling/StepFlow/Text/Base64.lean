/-! Bytes from text in base 64, read leniently: characters outside of the alphabet are passed
over. -/
namespace StepFlow.Text.Base64

def digit? (c : Char) : Option Nat :=
  if 'A' ≤ c ∧ c ≤ 'Z' then some (c.toNat - 65)
  else if 'a' ≤ c ∧ c ≤ 'z' then some (c.toNat - 71)
  else if c.isDigit then some (c.toNat + 4)
  else if c = '+' then some 62
  else if c = '/' then some 63
  else none

def bytesOf : List Nat → List UInt8
  | [a, b] => [UInt8.ofNat (a * 4 + b / 16)]
  | [a, b, c] => [UInt8.ofNat (a * 4 + b / 16), UInt8.ofNat (b * 16 + c / 4)]
  | [a, b, c, d] =>
    [UInt8.ofNat (a * 4 + b / 16), UInt8.ofNat (b * 16 + c / 4), UInt8.ofNat (c * 64 + d)]
  | _ => []

/-- Reads on, given the digits of the current group and the padding behind them. A group that
padding completes is the last one; without padding every group has to be full. -/
def decodeFrom (group : List Nat) (pads : Nat) : List Char → Option (List UInt8)
  | [] => if group.isEmpty then some [] else none
  | c :: cs =>
    if c = '=' then
      if 2 ≤ group.length then
        if 4 ≤ group.length + pads + 1 then some (bytesOf group) else decodeFrom group (pads + 1) cs
      else decodeFrom group pads cs
    else match digit? c with
      | none => decodeFrom group pads cs
      | some d =>
        if group.length = 3 then (decodeFrom [] 0 cs).map (bytesOf (group ++ [d]) ++ ·)
        else decodeFrom (group ++ [d]) 0 cs

def decode? (cs : List Char) : Option (List UInt8) := decodeFrom [] 0 cs

end StepFlow.Text.Base64
