import StepFlow.Number.Binary64

/-! The fewest decimal digits that still identify a double, and the text written with them. -/
namespace StepFlow.Binary64

/-- The least `k` with `num / den < 10^k`, found from an estimate that is at most one step off on
either side. -/
def decimalPlace (num den : Nat) : Int :=
  let guess : Int := ((floorLog2 num den) * 30103) / 100000
  let reaches (k : Int) : Bool := num * tenTo (-k).toNat < den * tenTo k.toNat
  if reaches guess then guess else if reaches (guess + 1) then guess + 1 else guess + 2

/-- A double's neighbourhood: the reals `x` with `low / den ≤ x ≤ high / den` round to `value /
den`, the ends only when `closed`. -/
structure Interval where
  low : Nat
  value : Nat
  high : Nat
  den : Nat
  closed : Bool

/-- The reals that round to `m * 2^q`. Below a power of two the gap is half as wide. -/
def interval (m : Nat) (q : Int) : Interval :=
  let below := if m = twoTo 52 ∧ minExponent < q then 1 else 2
  let s := twoTo (q - 2).toNat
  ⟨(4 * m - below) * s, 4 * m * s, (4 * m + 2) * s, twoTo (2 - q).toNat, m % 2 = 0⟩

def Interval.holds (i : Interval) (n : Nat) (k : Int) : Bool :=
  let x := n * tenTo k.toNat * i.den
  let p := tenTo (-k).toNat
  if i.closed then i.low * p ≤ x && x ≤ i.high * p else i.low * p < x && x < i.high * p

/-- Of the two neighbours of the value on the grid of multiples of `10^k`, the nearer one that lies
in the interval; a tie goes to the even one. -/
def Interval.onGrid? (i : Interval) (k : Int) : Option Nat :=
  let num := i.value * tenTo (-k).toNat
  let den := i.den * tenTo k.toNat
  let near := divRoundEven num den
  let floor := num / den
  let far := if near = floor then floor + 1 else floor
  if i.holds near k then some near else if i.holds far k then some far else none

/-- The coarsest of the grids `10^k`, `10^(k-1)`, … that has a point in the interval, with that
point. -/
def Interval.search (i : Interval) : Nat → Int → Nat × Int
  | 0, k => (divRoundEven (i.value * tenTo (-k).toNat) (i.den * tenTo k.toNat), k)
  | fuel + 1, k =>
    match i.onGrid? k with
    | some n => (n, k)
    | none => i.search fuel (k - 1)

/-- The shortest digits of `m * 2^q` and the place of the point before them: the value is near
`0.digits * 10^place`. -/
def shortest (m : Nat) (q : Int) : List Char × Int :=
  let i := interval m q
  let (n, k) := i.search 16 (decimalPlace i.value i.den - 1)
  let ds := Nat.toDigits 10 n
  let kept := (ds.reverse.dropWhile (· == '0')).reverse
  (kept, k + ds.length)

/-- How a decimal is laid out: positional while the place of the point is above `low` and at most
`high`, with an exponent of at least two digits otherwise. -/
structure Layout where
  low : Int := -4
  high : Int := 16
  exponentDigits : Nat := 2

def Layout.write (l : Layout) (ds : List Char) (place : Int) : List Char :=
  if l.low < place ∧ place ≤ l.high then
    if place ≤ 0 then '0' :: '.' :: List.replicate (-place).toNat '0' ++ ds
    else
      let whole := ds.take place.toNat
      let rest := ds.drop place.toNat
      whole ++ List.replicate (place.toNat - whole.length) '0' ++
        '.' :: (if rest.isEmpty then ['0'] else rest)
  else
    let e := place - 1
    let es := Nat.toDigits 10 e.natAbs
    ds.take 1 ++ (if ds.length ≤ 1 then [] else '.' :: ds.drop 1) ++
      'e' :: (if e < 0 then '-' else '+') ::
      (List.replicate (l.exponentDigits - es.length) '0' ++ es)

/-- The text of a number: the fewest digits that read back, positional from 0.0001 up to 10^16. The
words for what is no finite number are parameters. -/
def write (infinity noNumber : String) : Binary64 → String
  | finite a m q =>
    let body := if m = 0 then "0.0" else
      let (ds, place) := shortest m q
      String.ofList (Layout.write {} ds place)
    if a then "-" ++ body else body
  | infinite a => if a then "-" ++ infinity else infinity
  | nan => noNumber

def toText : Binary64 → String := write "inf" "nan"

end StepFlow.Binary64
