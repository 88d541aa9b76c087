import StepFlow.Fault.Basic
import StepFlow.Text.Base64
import StepFlow.Text.Lower
import StepFlow.Yaml.Cursor
import StepFlow.Yaml.Tag

/-! The values of scalars by their tags. -/
namespace StepFlow.Yaml

def quotedText (cs : List Char) : String := Text.Quoted.ofString (String.ofList cs)

def dropUnderscores (cs : List Char) : List Char := cs.filter (· != '_')

def signed (cs : List Char) : Except Fault (Bool × List Char) :=
  if cs.isEmpty then .error .emptyText else .ok (Decimal.splitSign cs)

def negateIf (negative : Bool) (n : Int) : Int := if negative then -n else n

/-- A number of any length in the given base between blanks, with or without the letter that marks
the base. -/
def inBase (base : Nat) (letter : Char) (cs : List Char) : Except Fault Int :=
  let (negative, body) :=
    Decimal.splitSign (Text.strip Reading.isAsciiSpace (cs.map Reading.toAscii))
  let digits := match body with
    | '0' :: c :: rest => if c.toLower = letter then rest else body
    | _ => body
  match digits.mapM Text.hexDigit? with
  | some ds =>
    if !ds.isEmpty && ds.all (· < base) then .ok (negateIf negative (Text.ofDigits base ds))
    else .error (.intUnreadable base (quotedText cs))
  | none => .error (.intUnreadable base (quotedText cs))

def inTen (cs : List Char) : Except Fault Int :=
  match Reading.int (cs.map Reading.toAscii) with
  | .value n => .ok n
  | .tooLong digits => .error (.intTooLong digits)
  | .malformed => .error (.intUnreadable 10 (quotedText cs))

def sexagesimal (cs : List Char) : Except Fault Int := do
  return (← (cs.splitOn ':').mapM inTen).foldl (fun n d => n * 60 + d) 0

/-- A whole number: binary, hexadecimal or octal behind a zero, else decimal or with parts in base
sixty. -/
def readInt (cs : List Char) : Except Fault Int := do
  let (negative, cs) ← signed (dropUnderscores cs)
  let n ← match cs with
    | [] => .error .emptyText
    | ['0'] => .ok 0
    | '0' :: 'b' :: rest => inBase 2 'b' rest
    | '0' :: 'x' :: rest => inBase 16 'x' rest
    | '0' :: _ => inBase 8 'o' cs
    | _ => if cs.contains ':' then sexagesimal cs else inTen cs
  return negateIf negative n

def realPart (cs : List Char) : Except Fault Binary64 :=
  match Reading.real? (cs.map Reading.toAscii) with
  | some x => .ok x
  | none => .error (.realUnreadable (quotedText cs))

/-- The sum of parts in base sixty, given the last part first, and the factor of the first of
them. -/
def sixtieths (factor : Int) (sum : Binary64) : List Binary64 → Except Fault Binary64
  | [] => .ok sum
  | x :: xs => match Binary64.ofInt? factor with
    | some f => sixtieths (factor * 60) (sum.add (x.mul f)) xs
    | none => .error .realTooLarge

def nanWord : List Char := ".nan".toList

/-- The text is the word for what is no number, perhaps with a sign. All that it is written for are
one and the same. -/
def isNaNWord (cs : List Char) : Bool :=
  (Decimal.splitSign (Text.lower (dropUnderscores cs))).2 = nanWord

def readFloat (cs : List Char) : Except Fault Binary64 := do
  let (negative, cs) ← signed (Text.lower (dropUnderscores cs))
  let x ←
    if cs = ".inf".toList then pure (Binary64.infinite false)
    else if cs = nanWord then pure Binary64.nan
    else if cs.contains ':' then do
      let parts ← (cs.splitOn ':').mapM realPart
      sixtieths 1 (Binary64.zero false) parts.reverse
    else realPart cs
  return if negative then x.neg else x

def truthWords : List (String × Bool) :=
  [("yes", true), ("no", false), ("true", true), ("false", false), ("on", true), ("off", false)]

/-- The truth that a word stands for; the case of letters does not matter. -/
def readBool (cs : List Char) : Except Fault Bool :=
  let word := String.ofList (Text.lower cs)
  match truthWords.lookup word with
  | some b => .ok b
  | none => .error (.unknownName word)

def readTimestamp (cs : List Char) : Except Fault Value :=
  match stamp? (dropLineEnd cs) with
  | none => .error (.noAttribute "NoneType" "groupdict")
  | some s => match s.clock with
    | none => match Date.make s.year s.month s.day with
      | .ok d => .ok (.date d)
      | .error i => .error (.calendar i)
    | some t =>
      match Moment.make s.year s.month s.day t.hour t.minute t.second t.microsecond t.offset with
      | .ok m => .ok (.moment m)
      | .error i => .error (.calendar i)

def readScalar (t : Tag) (cs : List Char) : Except Issue Value :=
  match t with
  | .null => .ok .null
  | .bool => (readBool cs).map Value.bool |>.mapError Issue.fault
  | .int => (readInt cs).map Value.int |>.mapError Issue.fault
  | .float => (readFloat cs).map Value.float |>.mapError Issue.fault
  | .timestamp => (readTimestamp cs).mapError Issue.fault
  | .str => .ok (.text (String.ofList cs))
  | .binary =>
    if cs.all fun c => c.toNat < 128 then match Text.Base64.decode? cs with
      | some bs => .ok (.bytes bs)
      | none => .error .malformed
    else .error .malformed
  | _ => .error .malformed

end StepFlow.Yaml
