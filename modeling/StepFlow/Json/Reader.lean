import StepFlow.Number.Reading
import StepFlow.Text.Hex
import StepFlow.Text.Utf16
import StepFlow.Value.Basic

/-! Reading JSON. The words for infinities and for no number are accepted; of equal keys the last
one counts. -/
namespace StepFlow.Json

inductive ReadIssue where
  | malformed
  /-- A whole number of too many digits. -/
  | tooLong (digits : Nat)
  /-- An array, or else an object, inside too many others. -/
  | tooDeep (isArray : Bool)
deriving DecidableEq, Repr

def isSpace (c : Char) : Bool := c == ' ' || c == '\t' || c == '\n' || c == '\r'

def skipSpace (cs : List Char) : List Char := cs.dropWhile isSpace

def shortEscape? : Char → Option Char
  | '"' => some '"'
  | '\\' => some '\\'
  | '/' => some '/'
  | 'b' => some (Char.ofNat 8)
  | 'f' => some (Char.ofNat 12)
  | 'n' => some '\n'
  | 'r' => some '\r'
  | 't' => some '\t'
  | _ => none

def hex4? (a b c d : Char) : Option Nat := do
  return Text.ofDigits 16 [← Text.hexDigit? a, ← Text.hexDigit? b,
    ← Text.hexDigit? c, ← Text.hexDigit? d]

/-- The inside of a quoted text up to the closing quote, as code points and halves of pairs. -/
def body : List Char → Option (List Nat × List Char)
  | [] => none
  | '"' :: cs => some ([], cs)
  | '\\' :: 'u' :: a :: b :: c :: d :: cs => do
    let n ← hex4? a b c d
    let (ns, rest) ← body cs
    return (n :: ns, rest)
  | '\\' :: e :: cs => do
    let c ← shortEscape? e
    let (ns, rest) ← body cs
    return (c.toNat :: ns, rest)
  | c :: cs =>
    if c.toNat < 32 ∨ c = '\\' then none
    else do
      let (ns, rest) ← body cs
      return (c.toNat :: ns, rest)

def string (cs : List Char) : Except ReadIssue (String × List Char) :=
  match body cs with
  | some (ns, rest) => .ok (String.ofList (Text.joinPairs ns), rest)
  | none => .error .malformed

def wholeAt (cs : List Char) : List Char :=
  match cs with
  | '0' :: _ => ['0']
  | _ => cs.takeWhile Char.isDigit

/-- Digits behind a mark, if the mark and a digit stand at the front. -/
def fractionAt (cs : List Char) : List Char × List Char :=
  match cs with
  | '.' :: rest =>
    let ds := rest.takeWhile Char.isDigit
    if ds.isEmpty then ([], cs) else (ds, rest.dropWhile Char.isDigit)
  | _ => ([], cs)

def exponentAt (cs : List Char) : Option Int × List Char :=
  match cs with
  | e :: rest =>
    let (negative, digits) := Decimal.splitSign rest
    let ds := digits.takeWhile Char.isDigit
    if (e = 'e' ∨ e = 'E') ∧ ¬ds.isEmpty then
      (some (if negative then -(Decimal.natOfDigits ds : Int) else Decimal.natOfDigits ds),
        digits.dropWhile Char.isDigit)
    else (none, cs)
  | [] => (none, cs)

def number (negative : Bool) (cs : List Char) : Except ReadIssue (Value × List Char) :=
  let whole := wholeAt cs
  let rest := cs.drop whole.length
  if whole.isEmpty then .error .malformed
  else
    let (fraction, rest) := fractionAt rest
    let (exponent, rest) := exponentAt rest
    if fraction.isEmpty ∧ exponent.isNone then
      if Reading.maxDigits < whole.length then .error (.tooLong whole.length)
      else
        let n : Int := Decimal.natOfDigits whole
        .ok (.int (if negative then -n else n), rest)
    else
      let digits := Decimal.natOfDigits (whole ++ fraction)
      .ok (.float (Binary64.ofDecimal negative digits (exponent.getD 0 - fraction.length)), rest)

def word? (w : List Char) (cs : List Char) : Option (List Char) :=
  if cs.take w.length = w then some (cs.drop w.length) else none

def constants : List (String × Value) :=
  [("null", .null), ("true", .bool true), ("false", .bool false), ("NaN", .float .nan),
    ("Infinity", .float (.infinite false)), ("-Infinity", .float (.infinite true))]

def scalar (cs : List Char) : Except ReadIssue (Value × List Char) :=
  match constants.findSome? fun (w, v) => (word? w.toList cs).map fun rest => (v, rest) with
  | some r => .ok r
  | none =>
    match cs with
    | '-' :: rest => number true rest
    | _ => number false cs

mutual
/-- A value at the front, inside so many others, of which there may be `limit`. The fuel bounds the
nesting and the number of items together. -/
def value (limit : Nat) : Nat → Nat → List Char → Except ReadIssue (Value × List Char)
  | 0, _, _ => .error .malformed
  | fuel + 1, depth, cs =>
    match cs with
    | '"' :: cs => do
      let (s, rest) ← string cs
      return (.text s, rest)
    | '[' :: cs =>
      if limit ≤ depth then .error (.tooDeep true)
      else match skipSpace cs with
        | ']' :: rest => .ok (.list [], rest)
        | cs => do
          let (xs, rest) ← items limit fuel (depth + 1) cs
          return (.list xs, rest)
    | '\x7b' :: cs =>
      if limit ≤ depth then .error (.tooDeep false)
      else match skipSpace cs with
        | '\x7d' :: rest => .ok (.mapping [], rest)
        | cs => do
          let (entries, rest) ← fields limit fuel (depth + 1) cs
          return (.mapping (Entries.ofList entries), rest)
    | cs => scalar cs

def items (limit : Nat) : Nat → Nat → List Char → Except ReadIssue (List Value × List Char)
  | 0, _, _ => .error .malformed
  | fuel + 1, depth, cs => do
    let (x, rest) ← value limit fuel depth cs
    match skipSpace rest with
    | ']' :: rest => return ([x], rest)
    | ',' :: rest =>
      let (xs, rest) ← items limit fuel depth (skipSpace rest)
      return (x :: xs, rest)
    | _ => throw .malformed

def fields (limit : Nat) : Nat → Nat → List Char → Except ReadIssue (Entries × List Char)
  | 0, _, _ => .error .malformed
  | fuel + 1, depth, cs =>
    match cs with
    | '"' :: cs => do
      let (key, rest) ← string cs
      match skipSpace rest with
      | ':' :: rest =>
        let (v, rest) ← value limit fuel depth (skipSpace rest)
        match skipSpace rest with
        | '\x7d' :: rest => return ([(.text key, v)], rest)
        | ',' :: rest =>
          let (entries, rest) ← fields limit fuel depth (skipSpace rest)
          return ((.text key, v) :: entries, rest)
        | _ => throw .malformed
      | _ => throw .malformed
    | _ => throw .malformed
end

/-- The value that a whole document holds, with so many arrays and objects inside each other at
most. -/
def parseWithin (limit : Nat) (s : String) : Except ReadIssue Value := do
  let cs := s.toList
  let (v, rest) ← value limit (2 * cs.length + 2) 0 (skipSpace cs)
  if (skipSpace rest).isEmpty then return v else throw .malformed

/-- The most arrays and objects that may stand inside each other. The reader goes one call deeper
with each of them, on a stack of a thousand calls of which some twenty are in use when it starts.
The number belongs to that stack and not to the notation: `parseWithin` takes any other. -/
def maxDepth : Nat := 980

def parse (s : String) : Except ReadIssue Value := parseWithin maxDepth s

end StepFlow.Json
