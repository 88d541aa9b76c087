import StepFlow.Number.Reading
import StepFlow.Text.Utf8
import StepFlow.Yaml.Cursor

/-! The tokens of a YAML text, with those that carry a name: directives, anchors and tags. -/
namespace StepFlow.Yaml

structure TagName where
  handle : Option (List Char)
  tail : List Char
deriving DecidableEq, Repr

inductive Token where
  | streamEnd
  | documentStart
  | documentEnd
  | version (major : Nat)
  | tagHandle (handle lead : List Char)
  | otherDirective
  | blockSequenceStart
  | blockMappingStart
  | blockEnd
  | flowSequenceStart
  | flowSequenceEnd
  | flowMappingStart
  | flowMappingEnd
  | blockEntry
  | flowEntry
  | key
  | value
  | alias (name : List Char)
  | anchor (name : List Char)
  | tag (name : TagName)
  | scalar (text : List Char) (isPlain : Bool)
deriving Inhabited

/-! ## Names -/

def isNameChar (c : Char) : Bool := c.isAlphanum || c == '-' || c == '_'

def isTagChar (c : Char) : Bool := c.isAlphanum || "-;/?:@&=+$,_.!~*'()[]%".toList.contains c

def name (c : Cursor) : Except Issue (List Char × Cursor) :=
  match c.span isNameChar with
  | ([], _) => .error .malformed
  | found => .ok found

def anchorName (c : Cursor) : Except Issue (List Char × Cursor) := do
  let (found, c) ← name c
  if endsWord c.peek || "?:,]\x7d%@\x60".toList.contains (c.peek.getD ' ') then return (found, c)
  else throw .malformed

/-- Replaces every run of escaped bytes by the text that it encodes. -/
def unescapeTag : List Char → List UInt8 → Except Issue (List Char)
  | '%' :: cs, bytes =>
    match cs with
    | a :: b :: cs => match Text.hexDigit? a, Text.hexDigit? b with
      | some x, some y => unescapeTag cs (bytes ++ [UInt8.ofNat (16 * x + y)])
      | _, _ => .error .malformed
    | _ => .error .malformed
  | cs, bytes =>
    match Text.ofUtf8? bytes with
    | none => .error .malformed
    | some s => match cs with
      | [] => .ok s.toList
      | c :: cs => do return s.toList ++ c :: (← unescapeTag cs [])

def tagTail (c : Cursor) : Except Issue (List Char × Cursor) :=
  match c.span isTagChar with
  | ([], _) => .error .malformed
  | (cs, c) => do return (← unescapeTag cs [], c)

def tagHandle (c : Cursor) : Except Issue (List Char × Cursor) :=
  if c.peek ≠ some '!' then .error .malformed
  else if c.peekAt 1 = some ' ' then .ok (['!'], c.next)
  else
    let (found, c) := c.next.span isNameChar
    if c.peek = some '!' then .ok ('!' :: found ++ ['!'], c.next) else .error .malformed

/-- There is a mark in the rest of the word, so that the tag has a handle of its own. -/
def hasHandle (cs : List Char) : Bool :=
  match cs.find? fun c => c == '!' || c == ' ' || isBreak c with
  | some c => c == '!'
  | none => false

def tagToken (c : Cursor) : Except Issue (Token × Cursor) := do
  let (found, c) ←
    if c.peekAt 1 = some '<' then do
      let (tail, c) ← tagTail (c.skip 2)
      if c.peek = some '>' then pure (TagName.mk none tail, c.next) else throw .malformed
    else if endsWord (c.peekAt 1) then pure (TagName.mk none ['!'], c.next)
    else do
      let (handle, c) ← if hasHandle (c.rest.drop 1) then tagHandle c else pure (['!'], c.next)
      let (tail, c) ← tagTail c
      pure (TagName.mk (some handle) tail, c)
  if endsName c.peek then return (.tag found, c) else throw .malformed

/-! ## Directives -/

def versionPart (c : Cursor) : Except Issue (Nat × Cursor) :=
  match c.span Char.isDigit with
  | ([], _) => .error .malformed
  | (ds, c) =>
    if Reading.maxDigits < ds.length then .error (.fault (.intTooLong ds.length))
    else .ok (Decimal.natOfDigits ds, c)

def directive (c : Cursor) : Except Issue (Token × Cursor) := do
  let (found, c) ← name c
  unless endsName c.peek do throw .malformed
  let (token, c) ←
    if found = "YAML".toList then do
      let (major, c) ← versionPart c.skipSpaces
      unless c.peek = some '.' do throw .malformed
      let (_, c) ← versionPart c.next
      unless endsName c.peek do throw .malformed
      pure (Token.version major, c)
    else if found = "TAG".toList then do
      let (handle, c) ← tagHandle c.skipSpaces
      unless c.peek = some ' ' do throw .malformed
      let (lead, c) ← tagTail c.skipSpaces
      unless endsName c.peek do throw .malformed
      pure (Token.tagHandle handle lead, c)
    else pure (Token.otherDirective, c.skipWhile fun ch => !isBreak ch)
  return (token, ← c.skipLineEnd)

end StepFlow.Yaml
