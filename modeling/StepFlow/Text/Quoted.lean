import StepFlow.Text.Hex
import StepFlow.Text.Printable

/-! Quoted literals: a text between quotes on one line, with escapes for what would not show. -/
namespace StepFlow.Text.Quoted

/-- Single quotes, unless the text holds one and no double quote. -/
def quoteFor (hasSingle hasDouble : Bool) : Char := if hasSingle && !hasDouble then '"' else '\''

/-- The escape of a character by its code point: two, four or eight hexadecimal digits. -/
def escape (n : Nat) : List Char :=
  if n < 0x100 then '\\' :: 'x' :: hex 2 n
  else if n < 0x10000 then '\\' :: 'u' :: hex 4 n
  else '\\' :: 'U' :: hex 8 n

def encodeChar (quote c : Char) : List Char :=
  if c = quote ∨ c = '\\' then ['\\', c]
  else if c = '\n' then ['\\', 'n']
  else if c = '\r' then ['\\', 'r']
  else if c = '\t' then ['\\', 't']
  else if isPrintable c then [c]
  else escape c.toNat

def encode (cs : List Char) : List Char :=
  let quote := quoteFor (cs.contains '\'') (cs.contains '"')
  quote :: cs.flatMap (encodeChar quote) ++ [quote]

/-- One byte of a literal: as the character of that code if it is ASCII, by number otherwise. -/
def encodeByte (quote : Char) (b : UInt8) : List Char :=
  if b < 128 then encodeChar quote (Char.ofNat b.toNat) else escape b.toNat

def encodeBytes (bs : List UInt8) : List Char :=
  let quote := quoteFor (bs.contains 39) (bs.contains 34)
  'b' :: quote :: bs.flatMap (encodeByte quote) ++ [quote]

def ofString (s : String) : String := String.ofList (encode s.toList)

def list (ss : List String) : String := "[" ++ ", ".intercalate (ss.map ofString) ++ "]"

end StepFlow.Text.Quoted
