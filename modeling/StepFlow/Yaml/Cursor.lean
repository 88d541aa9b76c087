import StepFlow.Fault.Basic

/-! A place in a YAML text: what is left of it, with the line and the column that have been
reached. -/
namespace StepFlow.Yaml

/-- Why a text is not read: it is no YAML, or one of its values cannot be made. -/
inductive Issue where
  | malformed
  | fault (f : Fault)

structure Cursor where
  rest : List Char
  index : Nat := 0
  line : Nat := 0
  column : Nat := 0

def isBreak (c : Char) : Bool :=
  c == '\n' || c == '\r' || c.toNat == 0x85 || c.toNat == 0x2028 || c.toNat == 0x2029

def endsLine (c : Option Char) : Bool := (c.map isBreak).getD true

/-- A word ends here: at a space or a tab, with the line, or with the text. -/
def endsWord (c : Option Char) : Bool :=
  (c.map fun c => c == ' ' || c == '\t' || isBreak c).getD true

def endsName (c : Option Char) : Bool := (c.map fun c => c == ' ' || isBreak c).getD true

def byteOrderMark : Char := Char.ofNat 0xFEFF

namespace Cursor

def peek (c : Cursor) : Option Char := c.rest.head?

def peekAt (c : Cursor) (n : Nat) : Option Char := c.rest[n]?

/-- Goes on by one character. A carriage return before a line feed does not yet end the line; the
byte order mark takes no column. -/
def next (c : Cursor) : Cursor :=
  match c.rest with
  | [] => c
  | '\r' :: '\n' :: rest =>
    { c with rest := '\n' :: rest, index := c.index + 1, column := c.column + 1 }
  | ch :: rest =>
    if isBreak ch then { rest, index := c.index + 1, line := c.line + 1, column := 0 }
    else { c with
      rest, index := c.index + 1, column := if ch = byteOrderMark then c.column else c.column + 1 }

def skip (c : Cursor) : Nat → Cursor
  | 0 => c
  | n + 1 => c.next.skip n

def span (c : Cursor) (p : Char → Bool) : List Char × Cursor :=
  let cs := c.rest.takeWhile p
  (cs, c.skip cs.length)

def skipWhile (c : Cursor) (p : Char → Bool) : Cursor := (c.span p).2

def skipSpaces (c : Cursor) : Cursor := c.skipWhile (· == ' ')

def skipComment (c : Cursor) : Cursor :=
  if c.peek = some '#' then c.skipWhile fun ch => !isBreak ch else c

/-- The line break ahead in its normal form, empty if there is none, and the place behind it. -/
def lineBreak (c : Cursor) : List Char × Cursor :=
  match c.rest with
  | '\r' :: '\n' :: _ => (['\n'], c.skip 2)
  | ch :: _ =>
    if ch = '\n' ∨ ch = '\r' ∨ ch.toNat = 0x85 then (['\n'], c.next)
    else if isBreak ch then ([ch], c.next)
    else ([], c)
  | [] => ([], c)

/-- The rest of the line holds nothing but spaces and a comment; the place behind its end. -/
def skipLineEnd (c : Cursor) : Except Issue Cursor :=
  let c := c.skipSpaces.skipComment
  if endsLine c.peek then .ok c.lineBreak.2 else .error .malformed

def atMarker (c : Cursor) : Bool :=
  (c.rest.take 3 == ['-', '-', '-'] || c.rest.take 3 == ['.', '.', '.']) && endsWord (c.peekAt 3)

end Cursor
end StepFlow.Yaml
