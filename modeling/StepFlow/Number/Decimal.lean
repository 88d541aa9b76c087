import StepFlow.Number.Binary64
import StepFlow.Text.Hex

/-! Numbers written in ASCII decimal: signs, digit groups, fractions, exponents and the words for
what is no number. -/
namespace StepFlow.Decimal

def splitSign : List Char → Bool × List Char
  | '-' :: cs => (true, cs)
  | '+' :: cs => (false, cs)
  | cs => (false, cs)

def natOfDigits (ds : List Char) : Nat := Text.ofDigits 10 (ds.map (·.toNat - 48))

def isDigits (cs : List Char) : Bool := !cs.isEmpty && cs.all Char.isDigit

/-- Removes the underscores; each must stand between two digits. -/
def joinGroups? (cs : List Char) : Option (List Char) := go false cs
where
  go (afterDigit : Bool) : List Char → Option (List Char)
    | [] => some []
    | '_' :: c :: cs => if afterDigit && c.isDigit then (go true cs).map (c :: ·) else none
    | '_' :: [] => none
    | c :: cs => (go c.isDigit cs).map (c :: ·)

def int? (cs : List Char) : Option Int :=
  let (negative, ds) := splitSign cs
  if isDigits ds then some (if negative then -(natOfDigits ds : Int) else natOfDigits ds) else none

def exponent? : List Char → Option Int
  | [] => some 0
  | c :: cs => if c = 'e' ∨ c = 'E' then int? cs else none

/-- Digits with an optional fraction and exponent; one digit at least stands before the exponent. -/
def unsigned? (negative : Bool) (cs : List Char) : Option Binary64 :=
  let whole := cs.takeWhile Char.isDigit
  let rest := cs.dropWhile Char.isDigit
  let (fraction, rest) := match rest with
    | '.' :: r => (r.takeWhile Char.isDigit, r.dropWhile Char.isDigit)
    | r => ([], r)
  if whole.isEmpty && fraction.isEmpty then none
  else (exponent? rest).map fun e =>
    Binary64.ofDecimal negative (natOfDigits (whole ++ fraction)) (e - fraction.length)

/-- A signed decimal, or one of the words `inf`, `infinity` and `nan` in any case. -/
def real? (cs : List Char) : Option Binary64 :=
  let (negative, body) := splitSign cs
  let word := String.ofList (body.map Char.toLower)
  if word = "inf" ∨ word = "infinity" then some (.infinite negative)
  else if word = "nan" then some .nan
  else unsigned? negative body

end StepFlow.Decimal
