import StepFlow.Number.Basic

/-! Double-precision numbers as exact values, with rounding from fractions done in whole numbers. -/
namespace StepFlow

/-- A double: `(-1)^negative * significand * 2^exponent`, an infinity, or no number. -/
inductive Binary64 where
  | finite (negative : Bool) (significand : Nat) (exponent : Int)
  | infinite (negative : Bool)
  | nan
deriving DecidableEq, Repr, Inhabited

namespace Binary64

def minExponent : Int := -1074

def maxExponent : Int := 971

def zero (negative : Bool) : Binary64 := finite negative 0 minExponent

/-- The quotient rounded to the nearest whole number, a half to the even one. -/
def divRoundEven (n d : Nat) : Nat :=
  let q := n / d
  let r := n % d
  if 2 * r < d then q else if d < 2 * r then q + 1 else if q % 2 = 0 then q else q + 1

/-- The greatest `e` with `2^e ≤ num / den`. -/
def floorLog2 (num den : Nat) : Int :=
  let e : Int := (num.log2 : Int) - den.log2
  if num * twoTo (-e).toNat < den * twoTo e.toNat then e - 1 else e

/-- The double nearest to `num / den`, a tie going to the even significand. -/
def nearest (negative : Bool) (num den : Nat) : Binary64 :=
  if num = 0 then zero negative
  else
    let q := max (floorLog2 num den - 52) minExponent
    let m := divRoundEven (num * twoTo (-q).toNat) (den * twoTo q.toNat)
    let (m, q) := if m = twoTo 53 then (twoTo 52, q + 1) else (m, q)
    if maxExponent < q then infinite negative else finite negative m q

/-- The double nearest to a whole number; none if it is out of range. -/
def ofInt? (n : Int) : Option Binary64 :=
  match nearest (n < 0) n.natAbs 1 with
  | infinite _ => none
  | x => some x

/-- The double nearest to `digits * 10^exponent`. Exponents far out of range are settled before any
power is taken. -/
def ofDecimal (negative : Bool) (digits : Nat) (exponent : Int) : Binary64 :=
  if digits = 0 then zero negative
  else if 1100 < 3 * exponent then infinite negative
  else if digits.log2 + 1 + 3 * exponent < -1100 then zero negative
  else nearest negative (digits * tenTo exponent.toNat) (tenTo (-exponent).toNat)

def units (negative : Bool) (m : Nat) (q : Int) : Int :=
  let n := m * twoTo (q - minExponent).toNat
  if negative then -(n : Int) else n

/-- The double that is nearest to a whole number of units `2^exponent`; a zero takes the given
sign. -/
def ofUnits (zeroNegative : Bool) (n : Int) (exponent : Int) : Binary64 :=
  if n = 0 then zero zeroNegative
  else nearest (n < 0) (n.natAbs * twoTo exponent.toNat) (twoTo (-exponent).toNat)

def add : Binary64 → Binary64 → Binary64
  | nan, _ | _, nan => nan
  | infinite a, infinite b => if a = b then infinite a else nan
  | infinite a, finite .. | finite .., infinite a => infinite a
  | finite a m q, finite b n r => ofUnits (a && b) (units a m q + units b n r) minExponent

def mul : Binary64 → Binary64 → Binary64
  | nan, _ | _, nan => nan
  | infinite a, infinite b => infinite (a != b)
  | infinite a, finite b n _ | finite b n _, infinite a => if n = 0 then nan else infinite (a != b)
  | finite a m q, finite b n r =>
    ofUnits (a != b) (if a != b then -((m * n : Nat) : Int) else (m * n : Nat)) (q + r)

def neg : Binary64 → Binary64
  | finite a m q => finite (!a) m q
  | infinite a => infinite (!a)
  | nan => nan

/-- Zero of either sign. -/
def isZero : Binary64 → Bool
  | finite _ m _ => m == 0
  | _ => false

/-- Equality of numbers: the zeros are equal, and nothing equals a value that is no number. -/
def eqNumber : Binary64 → Binary64 → Bool
  | finite a m q, finite b n r => units a m q == units b n r
  | infinite a, infinite b => a == b
  | _, _ => false

def isPositive : Binary64 → Bool
  | finite a m _ => !a && m != 0
  | infinite a => !a
  | nan => false

def toInt? : Binary64 → Option Int
  | finite a m q =>
    if q < 0 ∧ m % twoTo (-q).toNat ≠ 0 then none
    else
      let n := m * twoTo q.toNat / twoTo (-q).toNat
      some (if a then -(n : Int) else n)
  | _ => none

def truncate? : Binary64 → Option Int
  | finite a m q =>
    let n := m * twoTo q.toNat / twoTo (-q).toNat
    some (if a then -(n : Int) else n)
  | _ => none

end Binary64
end StepFlow
