import StepFlow.Yaml.Scalar
import StepFlow.Yaml.Token

/-! Dividing a YAML text into tokens. That something is a key shows only at the colon behind it:
until then its place is kept as pending, and the key token is set there afterwards. So a token is
given out only when it is clear that no key token comes before it, and no more of the text is looked
at than that takes. -/
namespace StepFlow.Yaml

structure PendingKey where
  /-- The number of tokens in front. -/
  position : Nat
  /-- Nothing else may stand here. -/
  required : Bool
  index : Nat
  line : Nat
  column : Nat

def maxKeyLength : Nat := 1024

structure Lexer where
  cursor : Cursor
  /-- The length of the whole text, which bounds all that is done step by step. -/
  size : Nat
  tokens : Array Token := #[]
  /-- How many of the tokens have been given out. -/
  taken : Nat := 0
  /-- The end of the text has been reached. -/
  done : Bool := false
  /-- The column of the innermost block collection; less than any column outside of all. -/
  indent : Int := -1
  outerIndents : List Int := []
  /-- A key without mark may start here. -/
  keyAllowed : Bool := true
  pending : Option PendingKey := none
  /-- What is pending outside of each flow collection that is open, the innermost first. -/
  outerPending : List (Option PendingKey) := []

namespace Lexer

def inFlow (s : Lexer) : Bool := !s.outerPending.isEmpty

def emit (s : Lexer) (t : Token) : Lexer := { s with tokens := s.tokens.push t }

def mark (s : Lexer) (count : Nat) (t : Token) : Lexer :=
  { s.emit t with cursor := s.cursor.skip count }

/-! ## Keys without mark -/

/-- The place can no longer be that of a key: the line is over, or too much stands in between. -/
def isStale (s : Lexer) (k : PendingKey) : Bool :=
  k.line != s.cursor.line || maxKeyLength < s.cursor.index - k.index

/-- Gives up a pending place, which a required key does not allow. -/
def giveUp (k : Option PendingKey) : Except Issue (Option PendingKey) :=
  match k with
  | some k => if k.required then .error .malformed else .ok none
  | none => .ok none

def dropPending (s : Lexer) : Except Issue Lexer := do
    return { s with pending := ← giveUp s.pending }

def dropStale (s : Lexer) : Except Issue Lexer := do
  let check (k : Option PendingKey) := if (k.map s.isStale).getD false then giveUp k else .ok k
  return { s with pending := ← check s.pending, outerPending := ← s.outerPending.mapM check }

def savePending (s : Lexer) : Except Issue Lexer := do
  if s.keyAllowed then
    let s ← s.dropPending
    return { s with
      pending := some
        { position := s.tokens.size
          required := !s.inFlow && s.indent == s.cursor.column
          index := s.cursor.index
          line := s.cursor.line
          column := s.cursor.column } }
  else return s

/-! ## Indentation -/

/-- Ends the block collections that are indented by more than `column`, given those around the
innermost. -/
def unwind (column : Int) : List Int → Lexer → Lexer
  | [], s => s
  | i :: outer, s =>
    if s.inFlow || s.indent ≤ column then s
    else unwind column outer ({ s with indent := i, outerIndents := outer }.emit .blockEnd)

def unwindTo (s : Lexer) (column : Int) : Lexer := unwind column s.outerIndents s

def indentTo (s : Lexer) (column : Nat) (position : Nat) (t : Token) : Lexer :=
  if s.indent < column then
    { s with
      indent := column
      outerIndents := s.indent :: s.outerIndents
      tokens := s.tokens.insertIdxIfInBounds position t }
  else s

/-- Outside of flow collections: starts a block collection here, where a key would have to be
allowed. -/
def startBlock (s : Lexer) (t : Token) : Except Issue Lexer :=
  if s.inFlow then .ok s
  else if s.keyAllowed then .ok (s.indentTo s.cursor.column s.tokens.size t)
  else .error .malformed

/-! ## Tokens -/

def openFlow (s : Lexer) (t : Token) : Except Issue Lexer := do
  let s ← s.savePending
  return { s with
    outerPending := s.pending :: s.outerPending, pending := none, keyAllowed := true }.mark 1 t

def closeFlow (s : Lexer) (t : Token) : Except Issue Lexer := do
  let s ← s.dropPending
  let s := match s.outerPending with
    | [] => s
    | k :: outer => { s with pending := k, outerPending := outer }
  return { s with keyAllowed := false }.mark 1 t

def entry (s : Lexer) (keyAllowed : Bool) (t : Token) : Except Issue Lexer := do
  let s ← { s with keyAllowed }.dropPending
  return s.mark 1 t

def valueMark (s : Lexer) : Except Issue Lexer :=
  match s.pending with
  | some k =>
    let s :=
      { s with
        pending := none, keyAllowed := false,
        tokens := s.tokens.insertIdxIfInBounds k.position .key }
    let s := if s.inFlow then s else s.indentTo k.column k.position .blockMappingStart
    .ok (s.mark 1 .value)
  | none => do (← s.startBlock .blockMappingStart).entry (!s.inFlow) .value

def documentMark (s : Lexer) : Except Issue Lexer := do
  return { ← (s.unwindTo (-1)).dropPending with keyAllowed := false }

/-- What may be a key: an alias, an anchor, a tag or a scalar between quotes. -/
def word (s : Lexer) (read : Cursor → Except Issue (Token × Cursor)) : Except Issue Lexer := do
  let s ← s.savePending
  let (t, cursor) ← read s.cursor
  return { s.emit t with cursor, keyAllowed := false }

def plainWord (s : Lexer) : Except Issue Lexer := do
  let s ← s.savePending
  let (text, broken, cursor) := plain s.inFlow (s.indent + 1) (s.size + 1) [] s.cursor
  return { s.emit (.scalar text true) with cursor, keyAllowed := broken }

def blockScalar (s : Lexer) (folded : Bool) : Except Issue Lexer := do
  let s ← { s with keyAllowed := true }.dropPending
  let (text, cursor) ← block folded s.indent s.cursor.next
  return { s.emit (.scalar text false) with cursor }

/-- Goes over spaces, comments and line ends; outside of flow collections a key may follow a line
end. -/
def skipBlank : Nat → Lexer → Lexer
  | 0, s => s
  | fuel + 1, s =>
    let c := s.cursor.skipSpaces.skipComment
    match c.lineBreak with
    | ([], _) => { s with cursor := c }
    | (_, c) => skipBlank fuel { s with cursor := c, keyAllowed := s.keyAllowed || !s.inFlow }

/-- The characters with which no plain scalar starts unless a word goes on behind them. -/
def indicators : List Char := "-?:,[]\x7b\x7d#&*!|>'\"%@\x60".toList

def startsPlain (s : Lexer) (ch : Char) (ahead : Option Char) : Bool :=
  !(endsWord (some ch) || indicators.contains ch) ||
    (!endsWord ahead && (ch == '-' || (!s.inFlow && (ch == '?' || ch == ':'))))

def token (s : Lexer) (ch : Char) : Except Issue Lexer :=
  let c := s.cursor
  let ahead := c.peekAt 1
  let marked := s.inFlow || endsWord ahead
  if ch = '%' ∧ c.column = 0 then do
    let s ← s.documentMark
    let (t, cursor) ← directive s.cursor.next
    return { s.emit t with cursor }
  else if c.column = 0 ∧ c.atMarker then do
    return (← s.documentMark).mark 3 (if ch = '-' then .documentStart else .documentEnd)
  else if ch = '[' then s.openFlow .flowSequenceStart
  else if ch = '\x7b' then s.openFlow .flowMappingStart
  else if ch = ']' then s.closeFlow .flowSequenceEnd
  else if ch = '\x7d' then s.closeFlow .flowMappingEnd
  else if ch = ',' then s.entry true .flowEntry
  else if ch = '-' ∧ endsWord ahead then do
    (← s.startBlock .blockSequenceStart).entry true .blockEntry
  else if ch = '?' ∧ marked then do (← s.startBlock .blockMappingStart).entry (!s.inFlow) .key
  else if ch = ':' ∧ marked then s.valueMark
  else if ch = '*' then s.word fun c => do let (n, c) ← anchorName c.next; return (.alias n, c)
  else if ch = '&' then s.word fun c => do let (n, c) ← anchorName c.next; return (.anchor n, c)
  else if ch = '!' then s.word tagToken
  else if (ch = '|' ∨ ch = '>') ∧ !s.inFlow then s.blockScalar (ch == '>')
  else if ch = '\'' ∨ ch = '"' then s.word fun c => do
    let (text, c) ← quoted (ch == '"') (s.size + 1) c.next
    return (.scalar text false, c)
  else if s.startsPlain ch ahead then s.plainWord
  else .error .malformed

def step (s : Lexer) : Except Issue Lexer := do
  let s := if s.cursor.index = 0 ∧ s.cursor.peek = some byteOrderMark then { s with
    cursor := s.cursor.next } else s
  let s ← (skipBlank (s.size + 1) s).dropStale
  let s := s.unwindTo s.cursor.column
  match s.cursor.peek with
  | none => return { ← (s.unwindTo (-1)).dropPending with done := true }.emit .streamEnd
  | some ch => s.token ch

def firstPending? (s : Lexer) : Option Nat :=
  ((s.pending :: s.outerPending).filterMap fun k => k.map PendingKey.position).min?

/-- The next token that has not been given out stands there and has its final place. -/
def isSettled (s : Lexer) : Bool :=
  s.done || (s.taken < s.tokens.size && s.firstPending? != some s.taken)

def fill : Nat → Lexer → Except Issue Lexer
  | 0, _ => .error .malformed
  | fuel + 1, s => do
    let s ← if s.done ∨ s.taken = s.tokens.size then pure s else s.dropStale
    if s.isSettled then return s else fill fuel (← s.step)

/-- The next token, with a lexer that has it ready. Every step but the last takes one character at
least. -/
def peek (s : Lexer) : Except Issue (Token × Lexer) := do
  let s ← fill (s.size + 2) s
  return (s.tokens.getD s.taken .streamEnd, s)

def advance (s : Lexer) : Lexer := { s with taken := s.taken + 1 }

def ofText (cs : List Char) : Lexer := { cursor := { rest := cs }, size := cs.length }

end Lexer
end StepFlow.Yaml
