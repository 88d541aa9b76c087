import StepFlow.Text.Utf16
import StepFlow.Yaml.Cursor

/-! The scalars of YAML: plain, between quotes, and as blocks of lines. -/
namespace StepFlow.Yaml

/-- What is left of line breaks inside a scalar that goes on: a single one becomes a space, of
several all but the first stay. A separator of lines or paragraphs stays in any case. -/
def foldBreaks (first : List Char) (more : List Char) : List Char :=
  (if first ≠ ['\n'] then first else if more.isEmpty then [' '] else []) ++ more

/-! ## Between quotes -/

def escapes : List (Char × Nat) :=
  [('0', 0), ('a', 7), ('b', 8), ('t', 9), ('\t', 9), ('n', 10), ('v', 11),
    ('f', 12), ('r', 13), ('e', 27),
    (' ', 32), ('"', 34), ('\\', 92), ('/', 47), ('N', 0x85), ('_', 0xA0),
      ('L', 0x2028), ('P', 0x2029)]

def escapeDigits : List (Char × Nat) := [('x', 2), ('u', 4), ('U', 8)]

def characterOf (n : Nat) : Except Issue Char :=
  if 0x80000000 ≤ n then .error (.fault .hugeCharacter)
  else if 0x110000 ≤ n then .error (.fault .noSuchCharacter)
  else .ok (Text.ofUnit n)

def hexNumber? (count : Nat) (cs : List Char) : Option Nat :=
  match (cs.take count).mapM Text.hexDigit? with
  | some ds => if ds.length = count then some (Text.ofDigits 16 ds) else none
  | none => none

def pairWith? (first : Nat) (c : Cursor) : Option Char :=
  match c.rest with
  | '\\' :: 'u' :: cs => (hexNumber? 4 cs).bind (Text.joinHalves? first)
  | _ => none

/-- Further line breaks inside quotes, blanks dropped. A marker of documents is no part of the
text. -/
def quotedBreaks : Nat → Cursor → Except Issue (List Char × Cursor)
  | 0, _ => .error .malformed
  | fuel + 1, c =>
    if c.atMarker then .error .malformed
    else
      let c := c.skipWhile fun ch => ch == ' ' || ch == '\t'
      match c.lineBreak with
      | ([], _) => .ok ([], c)
      | (b, c) => do
        let (more, c) ← quotedBreaks fuel c
        return (b ++ more, c)

/-- A run of blanks inside quotes, with the line breaks in it folded. -/
def quotedBlanks (fuel : Nat) (c : Cursor) : Except Issue (List Char × Cursor) :=
  let (blanks, c) := c.span fun ch => ch == ' ' || ch == '\t'
  match c.peek, c.lineBreak with
  | none, _ => .error .malformed
  | some _, ([], _) => .ok (blanks, c)
  | some _, (b, c) => do
    let (more, c) ← quotedBreaks fuel c
    return (foldBreaks b more, c)

def escape (fuel : Nat) (c : Cursor) : Except Issue (List Char × Cursor) :=
  match c.peek with
  | none => .error .malformed
  | some ch =>
    match escapes.lookup ch, escapeDigits.lookup ch with
    | some n, _ => .ok ([Char.ofNat n], c.next)
    | none, some count =>
      match hexNumber? count c.next.rest with
      | some n =>
        let c := c.next.skip count
        match pairWith? n c with
        | some ch => .ok ([ch], c.skip 6)
        | none => do return ([← characterOf n], c)
      | none => .error .malformed
    | none, none => match c.lineBreak with
      | ([], _) => .error .malformed
      | (_, c) => quotedBreaks fuel c

/-- The inside of a quoted text up to the closing quote. Between double quotes there are escapes,
between single ones a quote is written twice. -/
def quoted (double : Bool) : Nat → Cursor → Except Issue (List Char × Cursor)
  | 0, _ => .error .malformed
  | fuel + 1, c =>
    match c.rest with
    | [] => .error .malformed
    | ch :: rest => do
      let (piece, c) ←
        if double && ch == '"' then return ([], c.next)
        else if !double && ch == '\'' then
          if rest.head? = some '\'' then .ok (['\''], c.skip 2) else return ([], c.next)
        else if double && ch == '\\' then escape fuel c.next
        else if ch == ' ' || ch == '\t' || isBreak ch then quotedBlanks fuel c
        else .ok ([ch], c.next)
      let (more, c) ← quoted double fuel c
      return (piece ++ more, c)

/-! ## Plain -/

/-- A plain scalar cannot go on with the character at this place. -/
def endsPlain (inFlow : Bool) (c : Option Char) (ahead : Option Char) : Bool :=
  endsWord c ||
    (c == some ':' &&
      (endsWord ahead || (inFlow && ",[]\x7b\x7d".toList.contains (ahead.getD ' ')))) ||
    (inFlow && ",?[]\x7b\x7d".toList.contains (c.getD ' '))

def plainWord (inFlow : Bool) : List Char → List Char
  | [] => []
  | ch :: rest => if endsPlain inFlow (some ch) rest.head? then [] else ch :: plainWord inFlow rest

/-- Spaces and line breaks after the first break, with the breaks; none at a marker of documents. -/
def plainBreaks : Nat → Cursor → Option (List Char) × Cursor
  | 0, c => (some [], c)
  | fuel + 1, c =>
    if c.peek = some ' ' then plainBreaks fuel c.next
    else match c.lineBreak with
      | ([], _) => (some [], c)
      | (b, c) =>
        if c.atMarker then (none, c)
        else match plainBreaks fuel c with
          | (some more, c) => (some (b ++ more), c)
          | (none, c) => (none, c)

/-- What stands between two words of a plain scalar, empty where it ends, and whether a line ended
there. -/
def plainGap (c : Cursor) : List Char × Bool × Cursor :=
  let (spaces, c) := c.span (· == ' ')
  match c.lineBreak with
  | ([], _) => (spaces, false, c)
  | (b, c) =>
    if c.atMarker then ([], true, c)
    else match plainBreaks c.rest.length c with
      | (some more, c) => (foldBreaks b more, true, c)
      | (none, c) => ([], true, c)

/-- A plain scalar whose further lines are indented by `indent` columns at least: its text, and
whether its end is at the start of a line. -/
def plain (inFlow : Bool) (indent : Int) : Nat → List Char → Cursor → List Char × Bool × Cursor
  | 0, _, c => ([], false, c)
  | fuel + 1, gap, c =>
    let word := plainWord inFlow c.rest
    if c.peek = some '#' ∨ word.isEmpty then ([], false, c)
    else
      let (nextGap, broken, after) := plainGap (c.skip word.length)
      if nextGap.isEmpty ∨ after.peek = some '#' ∨ (¬inFlow ∧ after.column < indent) then
        (gap ++ word, broken, after)
      else
        match plain inFlow indent fuel nextGap after with
        | ([], _, c) => (gap ++ word, broken, c)
        | (more, broken, c) => (gap ++ word ++ more, broken, c)

/-! ## Blocks -/

inductive Chomping where
  | clip | strip | keep
deriving DecidableEq

def chomping? : Char → Option Chomping
  | '+' => some .keep
  | '-' => some .strip
  | _ => none

def indentation? (c : Option Char) : Except Issue (Option Nat) :=
  match c with
  | some ch =>
    if ch = '0' then .error .malformed
    else .ok (if ch.isDigit then some (ch.toNat - 48) else none)
  | none => .ok none

def blockHeader (c : Cursor) : Except Issue (Chomping × Option Nat × Cursor) := do
  let (chomping, increment, c) ← match c.peek.bind chomping? with
    | some chomping =>
      let c := c.next
      match ← indentation? c.peek with
      | some n => .ok (chomping, some n, c.next)
      | none => .ok (chomping, none, c)
    | none => match ← indentation? c.peek with
      | some n =>
        let c := c.next
        match c.peek.bind chomping? with
        | some chomping => .ok (chomping, some n, c.next)
        | none => .ok (Chomping.clip, some n, c)
      | none => .ok (Chomping.clip, none, c)
  if endsName c.peek then return (chomping, increment, ← c.skipLineEnd) else throw .malformed

def blockStart : Nat → Nat → Cursor → List Char × Nat × Cursor
  | 0, widest, c => ([], widest, c)
  | fuel + 1, widest, c =>
    if c.peek = some ' ' then blockStart fuel (max widest c.next.column) c.next
    else match c.lineBreak with
      | ([], _) => ([], widest, c)
      | (b, c) =>
        let (more, widest, c) := blockStart fuel widest c
        (b ++ more, widest, c)

def skipToColumn (column : Int) : Nat → Cursor → Cursor
  | 0, c => c
  | fuel + 1, c =>
    if c.column < column ∧ c.peek = some ' ' then skipToColumn column fuel c.next else c

def blockBreaks (indent : Int) : Nat → Cursor → List Char × Cursor
  | 0, c => ([], c)
  | fuel + 1, c =>
    let c := skipToColumn indent c.rest.length c
    match c.lineBreak with
    | ([], _) => ([], c)
    | (b, c) =>
      let (more, c) := blockBreaks indent fuel c
      (b ++ more, c)

def isBlankAhead (c : Cursor) : Bool := c.peek == some ' ' || c.peek == some '\t'

def blockLines (folded : Bool) (indent : Int) :
    Nat → List Char → Cursor → List Char × List Char × List Char × Cursor
  | 0, breaks, c => ([], [], breaks, c)
  | fuel + 1, breaks, c =>
    if c.column = indent ∧ c.peek.isSome then
      let (line, after) := c.span fun ch => !isBreak ch
      let (lineBreak, after) := after.lineBreak
      let (more, after) := blockBreaks indent (after.rest.length + 1) after
      if after.column = indent ∧ after.peek.isSome then
        let joint :=
          if folded ∧ lineBreak = ['\n'] ∧ ¬isBlankAhead c ∧ ¬isBlankAhead after then
            if more.isEmpty then [' '] else []
          else lineBreak
        let (text, last, tail, c) := blockLines folded indent fuel more after
        (breaks ++ line ++ joint ++ text, last, tail, c)
      else (breaks ++ line, lineBreak, more, after)
    else ([], [], breaks, c)

/-- A block behind its mark, inside a collection that is indented by `outer` columns. -/
def block (folded : Bool) (outer : Int) (c : Cursor) : Except Issue (List Char × Cursor) := do
  let (chomping, increment, c) ← blockHeader c
  let least := max (outer + 1) 1
  let fuel := c.rest.length + 1
  let (breaks, indent, c) := match increment with
    | none =>
      let (breaks, widest, c) := blockStart fuel 0 c
      (breaks, max least widest, c)
    | some n =>
      let indent := least + n - 1
      let (breaks, c) := blockBreaks indent fuel c
      (breaks, indent, c)
  let (text, last, tail, c) := blockLines folded indent fuel breaks c
  return (text ++ (if chomping = .strip then [] else last) ++
    (if chomping = .keep then tail else []), c)

end StepFlow.Yaml
