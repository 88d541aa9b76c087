import StepFlow.Number.Decimal
import StepFlow.Text.Blank
import StepFlow.Text.Digit

/-! Reading a number from free text, where the digits of every script and digit groups are
welcome. -/
namespace StepFlow.Reading

def isAsciiSpace (c : Char) : Bool := c == ' ' || (9 ≤ c.toNat && c.toNat ≤ 13)

/-- Digits and spaces of other scripts in ASCII; what is neither becomes a question mark. -/
def toAscii (c : Char) : Char :=
  if c.toNat < 127 then c
  else if Text.isBlank c then ' '
  else match Text.digitValue? c with
    | some d => Char.ofNat (48 + d)
    | none => '?'

/-- The most digits that a whole number read from or written as text may have. -/
def maxDigits : Nat := 4300

inductive IntText where
  | value (n : Int)
  | tooLong (digits : Nat)
  | malformed
deriving DecidableEq, Repr

/-- A whole number between blanks. The groups of its digits are looked at first, then their number,
and last what follows them. -/
def int (cs : List Char) : IntText :=
  let (negative, body) := Decimal.splitSign (Text.strip isAsciiSpace cs)
  let isGrouped (c : Char) : Bool := c.isDigit || c == '_'
  match Decimal.joinGroups? (body.takeWhile isGrouped) with
  | none | some [] => .malformed
  | some ds =>
    if maxDigits < ds.length then .tooLong ds.length
    else if (body.dropWhile isGrouped).isEmpty then
      .value (if negative then -(Decimal.natOfDigits ds : Int) else Decimal.natOfDigits ds)
    else .malformed

def real? (cs : List Char) : Option Binary64 :=
  (Decimal.joinGroups? (Text.strip isAsciiSpace cs)).bind Decimal.real?

end StepFlow.Reading
