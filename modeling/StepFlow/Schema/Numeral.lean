import StepFlow.Number.Reading

/-! Numbers given as text in raw data: blanks around them and digit groups within are accepted. -/
namespace StepFlow.Schema

namespace Numeral

/-- Removes the underscores of a text that has single ones in its inside only. -/
def dropUnderscores? (cs : List Char) : Option (List Char) :=
  let doubled := (cs.zip cs.tail).any fun (a, b) => a = '_' && b = '_'
  if cs.head? = some '_' ∨ cs.getLast? = some '_' ∨ doubled then none
  else some (cs.filter (· ≠ '_'))

/-- A whole number in its strict form: no sign but a minus, no leading zero, nothing around it. Sign
and digits together are bounded, whatever follows them. -/
def plain (cs : List Char) : Reading.IntText :=
  let (negative, body) := match cs with
    | '-' :: rest => (true, rest)
    | _ => (false, cs)
  let ds := body.takeWhile Char.isDigit
  match ds with
  | [] => .malformed
  | '0' :: _ => if body = ['0'] then .value 0 else .malformed
  | _ =>
    if Reading.maxDigits < ds.length + negative.toNat then .tooLong ds.length
    else if body = ds then .value (if negative then -(Decimal.natOfDigits ds : Int)
      else Decimal.natOfDigits ds)
    else .malformed

/-- Leading zeros, with the underscores among them, are dropped; a last zero and one before a point
stay. After a zero a minus may follow. -/
def dropZeros? (cs : List Char) : Option (List Char) :=
  match cs with
  | '0' :: rest => go '0' rest
  | c :: _ => if c.isDigit then some cs else none
  | [] => none
where
  go (last : Char) : List Char → Option (List Char)
    | [] => some [last]
    | c :: cs =>
      if c = '0' ∨ c = '_' then go c cs
      else if c.isDigit ∨ c = '-' then some (c :: cs)
      else if c = '.' then some (last :: c :: cs)
      else none

def dropFraction (cs : List Char) : List Char :=
  match cs.dropWhile (· ≠ '.') with
  | _ :: fraction =>
    if !fraction.isEmpty && fraction.all (· = '0') then cs.takeWhile (· ≠ '.') else cs
  | [] => cs

/-- The sign of a number between blanks, and its digits without leading zeros, fraction of zeros and
underscores. -/
def cleaned? (s : String) : Option (Bool × List Char) :=
  let cs := Text.strip Text.isSpace s.toList
  let cs := match cs with
    | '+' :: '-' :: _ => []
    | '+' :: rest => rest
    | _ => cs
  let (negative, body) := match cs with
    | '-' :: rest => (true, rest)
    | _ => (false, cs)
  (dropZeros? body).bind fun body =>
    let body := dropFraction body
    (if body.contains '_' then dropUnderscores? body else some body).map fun ds => (negative, ds)

/-- A whole number as text: in the strict form, or else what is left of it when it is cleaned up. -/
def int (s : String) : Reading.IntText :=
  match plain s.toList with
  | .malformed => match cleaned? s with
    | none => .malformed
    | some (negative, ds) => match plain ds with
      | .value n =>
        if !negative then .value n else if ds.head? = some '-' then .malformed else .value (-n)
      | _ => .malformed
  | read => read

/-- A number as text. Underscores are looked for only where the plain reading fails, and then blanks
count. -/
def real? (s : String) : Option Binary64 :=
  Decimal.real? (Text.strip Text.isSpace s.toList) <|>
    (dropUnderscores? s.toList).bind Decimal.real?

end Numeral
end StepFlow.Schema
