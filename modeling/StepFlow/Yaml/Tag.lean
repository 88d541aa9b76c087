import StepFlow.Calendar.Iso
import StepFlow.Number.Decimal

/-! The tags that say what kind of value a node has, and those that plain scalars have by their
form. -/
namespace StepFlow.Yaml

inductive Tag where
  | null | bool | int | float | binary | timestamp | pairs | set | str | seq | map
  /-- A key whose value is a mapping to take entries from. -/
  | merge
  /-- A key whose value stands for the whole mapping. -/
  | value
  /-- No kind of value that is known here. -/
  | other
deriving DecidableEq, Repr

def Tag.isCollection : Tag → Bool
  | pairs | set | seq | map => true
  | _ => false

def tagLead : List Char := "tag:yaml.org,2002:".toList

def knownTags : List (String × Tag) :=
  [("null", .null), ("bool", .bool), ("int", .int), ("float", .float), ("binary", .binary),
    ("timestamp", .timestamp), ("omap", .pairs), ("pairs", .pairs), ("set", .set),
      ("str", .str), ("seq", .seq),
    ("map", .map), ("merge", .merge), ("value", .value)]

def Tag.ofName (cs : List Char) : Tag :=
  ((knownTags.find? fun (n, _) => tagLead ++ n.toList == cs).map Prod.snd).getD .other

/-! ## Dates -/

structure Clock where
  hour : Nat
  minute : Nat
  second : Nat
  microsecond : Nat
  offset : Option Int

structure Stamp where
  year : Nat
  month : Nat
  day : Nat
  /-- Month and day have two digits each. -/
  isPadded : Bool
  clock : Option Clock

/-- A line end at the very end does not count. -/
def dropLineEnd (cs : List Char) : List Char := if cs.getLast? = some '\n' then cs.dropLast else cs

def shortNumber? (cs : List Char) : Option (Nat × Bool × List Char) :=
  match cs with
  | a :: b :: rest =>
    if a.isDigit ∧ b.isDigit then some (Decimal.natOfDigits [a, b], true, rest)
    else if a.isDigit then some (Decimal.natOfDigits [a], false, b :: rest)
    else none
  | [a] => if a.isDigit then some (Decimal.natOfDigits [a], false, []) else none
  | [] => none

def expect? (c : Char) : List Char → Option (List Char)
  | d :: cs => if c = d then some cs else none
  | [] => none

def isTabOrSpace (c : Char) : Bool := c == ' ' || c == '\t'

/-- What follows a time of day: nothing, or `Z` or a signed offset behind blanks. -/
def zone? (cs : List Char) : Option (Option Int) :=
  match cs, cs.dropWhile isTabOrSpace with
  | [], _ => some none
  | _, ['Z'] => some (some 0)
  | _, sign :: rest => do
    guard (sign = '+' ∨ sign = '-')
    let (hours, _, rest) ← shortNumber? rest
    let minutes ← match rest with
      | [] => some 0
      | _ => do
        let (n, rest) ← Iso.digits? 2 (← expect? ':' rest)
        if rest.isEmpty then some n else none
    let n : Int := (hours * 60 + minutes) * 60000000
    return some (if sign = '-' then -n else n)
  | _, [] => none

/-- The microseconds that the digits of a fraction stand for; digits beyond the sixth are cut
off. -/
def microseconds (ds : List Char) : Nat := Decimal.natOfDigits ((ds ++ List.replicate 6 '0').take 6)

def clock? (cs : List Char) : Option Clock := do
  let (hour, _, cs) ← shortNumber? cs
  let (minute, cs) ← Iso.digits? 2 (← expect? ':' cs)
  let (second, cs) ← Iso.digits? 2 (← expect? ':' cs)
  let (fraction, cs) := match cs with
    | '.' :: cs => (cs.takeWhile Char.isDigit, cs.dropWhile Char.isDigit)
    | cs => ([], cs)
  return ⟨hour, minute, second, microseconds fraction, ← zone? cs⟩

def stamp? (cs : List Char) : Option Stamp := do
  let (year, cs) ← Iso.digits? 4 cs
  let (month, two, cs) ← shortNumber? (← expect? '-' cs)
  let (day, alsoTwo, cs) ← shortNumber? (← expect? '-' cs)
  let clock ← match cs with
    | [] => some none
    | c :: cs =>
      if c = 'T' ∨ c = 't' then (clock? cs).map some
      else if isTabOrSpace c then (clock? (cs.dropWhile isTabOrSpace)).map some
      else none
  return ⟨year, month, day, two && alsoTwo, clock⟩

/-! ## Forms of plain scalars -/

def isGroupDigit (c : Char) : Bool := c.isDigit || c == '_'

def isGrouped : List Char → Bool
  | c :: cs => c.isDigit && cs.all isGroupDigit
  | [] => false

def isSixtieth : List Char → Bool
  | [c] => c.isDigit
  | [a, b] => '0' ≤ a && a ≤ '5' && b.isDigit
  | _ => false

/-- Colons with parts in base sixty between them, one at least behind the first part. -/
def isSexagesimal (head : List Char → Bool) (cs : List Char) : Bool :=
  match cs.splitOn ':' with
  | first :: part :: parts => head first && (part :: parts).all isSixtieth
  | _ => false

/-- The form of a whole number: binary, octal, decimal, hexadecimal, or in base sixty. -/
def isIntForm (cs : List Char) : Bool :=
  let unsigned := (Decimal.splitSign cs).2
  let positive (cs : List Char) := isGrouped cs && cs.head? != some '0'
  isSexagesimal positive unsigned ||
    match unsigned with
    | '0' :: 'b' :: rest => !rest.isEmpty && rest.all fun c => c == '0' || c == '1' || c == '_'
    | '0' :: 'x' :: rest => !rest.isEmpty && rest.all fun c => (Text.hexDigit? c).isSome || c == '_'
    | '0' :: rest => rest.all fun c => ('0' ≤ c && c ≤ '7') || c == '_'
    | cs => positive cs

def isExponentForm : List Char → Bool
  | [] => true
  | e :: sign :: ds => (e == 'e' || e == 'E') && (sign == '+' || sign == '-') && Decimal.isDigits ds
  | _ => false

/-- The form of a number with a point, or of a word for what is no ordinary number. -/
def isFloatForm (cs : List Char) : Bool :=
  let unsigned := (Decimal.splitSign cs).2
  let whole := unsigned.takeWhile (· != '.')
  match unsigned.drop whole.length with
  | '.' :: rest =>
    if whole.isEmpty then
      ["inf", "Inf", "INF"].contains (String.ofList rest) ||
        (cs.head? == some '.' &&
          (["nan", "NaN", "NAN"].contains (String.ofList rest) ||
            (isGrouped (rest.takeWhile isGroupDigit) &&
              isExponentForm (rest.dropWhile isGroupDigit))))
    else
      (isGrouped whole && isExponentForm (rest.dropWhile isGroupDigit)) ||
        (isSexagesimal isGrouped whole && rest.all isGroupDigit)
  | _ => false

def isTimestampForm (cs : List Char) : Bool :=
  ((stamp? cs).map fun s => s.isPadded || s.clock.isSome).getD false

def plainWords : List (String × Tag) :=
  (["yes", "Yes", "YES", "no", "No", "NO", "true", "True", "TRUE", "false", "False",
    "FALSE", "on", "On", "ON", "off", "Off", "OFF"].map fun w => (w, .bool)) ++
    (["~", "null", "Null", "NULL"].map fun w => (w, .null)) ++ [("<<", .merge), ("=", .value)]

def Tag.ofPlain (cs : List Char) : Tag :=
  let form := dropLineEnd cs
  if cs.isEmpty then .null
  else match plainWords.lookup (String.ofList form) with
    | some t => t
    | none =>
      if isFloatForm form then .float
      else if isIntForm form then .int
      else if isTimestampForm form then .timestamp
      else .str

end StepFlow.Yaml
