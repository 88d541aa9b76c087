import StepFlow.Yaml.Lexer
import StepFlow.Yaml.Node

/-! The one document of a YAML text as nodes, made from its tokens. Tokens are asked for one at a
time, so of an issue with the tokens and one with their order the one that is met first counts. -/
namespace StepFlow.Yaml

/-- The state of assembling a document: the tokens ahead, what handles of tags stand for, the nodes
so far, those of them that have an anchor, and the number of the collections around the next
node. -/
structure Assembly where
  lexer : Lexer
  handles : List (List Char × List Char) := []
  graph : Graph := #[]
  anchors : List (List Char × Nat) := []
  depth : Nat := 0

abbrev Assemble := StateT Assembly (Except Issue)

namespace Assemble

def malformed {α : Type} : Assemble α := throw .malformed

def peek : Assemble Token := fun s => do
  let (t, lexer) ← s.lexer.peek
  return (t, { s with lexer })

def advance : Assemble Unit := modify fun s => { s with lexer := s.lexer.advance }

def add (n : Node) : Assemble Nat :=
  modifyGet fun s => (s.graph.size, { s with graph := s.graph.push n })

def setForm (number : Nat) (f : Form) : Assemble Unit :=
  modify fun s => { s with graph := s.graph.setForm number f }

structure Properties where
  anchor : Option (List Char) := none
  tag : Option (List Char) := none

def fullName (t : TagName) : Assemble (List Char) := do
  match t.handle with
  | none => return t.tail
  | some h => match (← get).handles.lookup h with
    | some lead => return lead ++ t.tail
    | none => malformed

/-- An anchor and a tag, in either order, each of which may be missing. -/
def properties : Assemble Properties := do
  match ← peek with
  | .anchor a =>
    advance
    match ← peek with
    | .tag t => advance; return { anchor := some a, tag := some (← fullName t) }
    | _ => return { anchor := some a }
  | .tag t =>
    advance
    match ← peek with
    | .anchor a => advance; return { anchor := some a, tag := some (← fullName t) }
    | _ => return { tag := some (← fullName t) }
  | _ => return {}

def start (p : Properties) (n : Node) : Assemble Nat := do
  match p.anchor with
  | none => add n
  | some a =>
    if ((← get).anchors.lookup a).isSome then malformed
    let number ← add n
    modify fun s => { s with anchors := (a, number) :: s.anchors }
    return number

/-- The tag that says no more than that the node is not to be taken for text. -/
def plainTag : List Char := ['!']

def scalarNode (p : Properties) (text : List Char) (isPlain : Bool) : Node :=
  match p.tag with
  | none => ⟨if isPlain then .ofPlain text else .str, .scalar text⟩
  | some t => ⟨if t = plainTag then .ofPlain text else .ofName t, .scalar text⟩

def collectionTag (p : Properties) (default : Tag) : Tag :=
  match p.tag with
  | none => default
  | some t => if t = plainTag then default else .ofName t

/-- The most collections that may stand inside each other: each takes two calls on a stack of a
thousand, of which some thirty are in use at the start. -/
def maxDepth : Nat := 485

def inside {α : Type} (read : Assemble α) : Assemble α := do
  let depth := (← get).depth
  if maxDepth ≤ depth then throw (.fault (.nestedTooDeep none))
  modify fun s => { s with depth := depth + 1 }
  let found ← read
  modify fun s => { s with depth }
  return found

def sequence (p : Properties) (items : Assemble (List Nat)) : Assemble Nat := do
  let number ← start p ⟨collectionTag p .seq, .sequence []⟩
  setForm number (.sequence (← inside items))
  return number

def mapping (p : Properties) (entries : Assemble (List (Nat × Nat))) : Assemble Nat := do
  let number ← start p ⟨collectionTag p .map, .mapping []⟩
  setForm number (.mapping (← inside entries))
  return number

/-- Where a node stands, which tells what may start there: between brackets only another collection
between brackets, as key or value in a block also the entries of a sequence without further
indentation. -/
inductive Place where
  | flow | block | member
deriving DecidableEq

def endsBlockItem : Token → Bool
  | .blockEntry | .blockEnd => true
  | _ => false

def endsBlockMember : Token → Bool
  | .key | .value | .blockEnd => true
  | _ => false

def endsLooseItem : Token → Bool
  | .blockEntry | .key | .value | .blockEnd => true
  | _ => false

def isFlowEnd (sequence : Bool) : Token → Bool
  | .flowSequenceEnd => sequence
  | .flowMappingEnd => !sequence
  | _ => false

def endsFlowValue (sequence : Bool) : Token → Bool
  | .flowEntry => true
  | t => isFlowEnd sequence t

def endsFlowKey (sequence : Bool) : Token → Bool
  | .value => true
  | t => endsFlowValue sequence t

def separator (first : Bool) : Assemble Unit := do
  unless first do
    match ← peek with
    | .flowEntry => advance
    | _ => malformed

mutual

def node : Nat → Place → Assemble Nat
  | 0, _ => malformed
  | fuel + 1, place => do
    if let .alias a ← peek then
      advance
      match (← get).anchors.lookup a with
      | some number => return number
      | none => malformed
    else content fuel place (← properties)

def content : Nat → Place → Properties → Assemble Nat
  | 0, _, _ => malformed
  | fuel + 1, place, p => do
    match ← peek with
    | .scalar text isPlain => advance; start p (scalarNode p text isPlain)
    | .flowSequenceStart => sequence p do advance; flowItems fuel true
    | .flowMappingStart => mapping p do advance; flowEntries fuel true
    | t =>
      match t, place with
      | .blockEntry, .member => sequence p (looseItems fuel)
      | .blockSequenceStart, .block | .blockSequenceStart, .member =>
        sequence p do advance; blockItems fuel
      | .blockMappingStart, .block | .blockMappingStart, .member =>
        mapping p do advance; blockEntries fuel
      | _, _ =>
        if p.anchor.isSome || p.tag.isSome then start p (scalarNode p [] true) else malformed

/-- A node, or an empty one in front of a token that ends it. -/
def optional : Nat → Place → (Token → Bool) → Assemble Nat
  | 0, _, _ => malformed
  | fuel + 1, place, ends => do if ends (← peek) then add .empty else node fuel place

def blockItems : Nat → Assemble (List Nat)
  | 0 => malformed
  | fuel + 1 => do
    match ← peek with
    | .blockEntry =>
      advance
      let item ← optional fuel .block endsBlockItem
      return item :: (← blockItems fuel)
    | .blockEnd => advance; return []
    | _ => malformed

/-- The items of a sequence that is indented like the mapping around it. -/
def looseItems : Nat → Assemble (List Nat)
  | 0 => malformed
  | fuel + 1 => do
    match ← peek with
    | .blockEntry =>
      advance
      let item ← optional fuel .block endsLooseItem
      return item :: (← looseItems fuel)
    | _ => return []

def blockEntries : Nat → Assemble (List (Nat × Nat))
  | 0 => malformed
  | fuel + 1 => do
    match ← peek with
    | .key =>
      advance
      let key ← optional fuel .member endsBlockMember
      let value ← valueOf fuel .member endsBlockMember
      return (key, value) :: (← blockEntries fuel)
    | .blockEnd => advance; return []
    | _ => malformed

def valueOf : Nat → Place → (Token → Bool) → Assemble Nat
  | 0, _, _ => malformed
  | fuel + 1, place, ends => do
    match ← peek with
    | .value => advance; optional fuel place ends
    | _ => add .empty

/-- The items of a sequence between brackets; a key among them makes a mapping of one entry. -/
def flowItems : Nat → Bool → Assemble (List Nat)
  | 0, _ => malformed
  | fuel + 1, first => do
    if isFlowEnd true (← peek) then advance; return []
    else
      separator first
      match ← peek with
      | .flowSequenceEnd => advance; return []
      | .key =>
        advance
        let single ← add ⟨.map, .mapping []⟩
        let entry ← inside do
          return (← optional fuel .flow (endsFlowKey true),
            ← valueOf fuel .flow (endsFlowValue true))
        setForm single (.mapping [entry])
        return single :: (← flowItems fuel false)
      | _ =>
        let item ← node fuel .flow
        return item :: (← flowItems fuel false)

/-- The entries of a mapping between brackets; a node without value is a key. -/
def flowEntries : Nat → Bool → Assemble (List (Nat × Nat))
  | 0, _ => malformed
  | fuel + 1, first => do
    if isFlowEnd false (← peek) then advance; return []
    else
      separator first
      match ← peek with
      | .flowMappingEnd => advance; return []
      | .key =>
        advance
        let key ← optional fuel .flow (endsFlowKey false)
        let value ← valueOf fuel .flow (endsFlowValue false)
        return (key, value) :: (← flowEntries fuel false)
      | _ =>
        let key ← node fuel .flow
        let value ← add .empty
        return (key, value) :: (← flowEntries fuel false)

end

/-! ## Documents -/

def commonHandles : List (List Char × List Char) := [(['!'], ['!']), (['!', '!'], tagLead)]

/-- A bound for the calls in assembling a document: a character gives four tokens at most, and
between two calls that use up a token there are at most three that do not. -/
def callBound : Assemble Nat := do return 16 * (← get).lexer.size + 40

def root : Assemble Nat := do node (← callBound) .block

/-- The directives at the front: the handles that they give, and whether one of them gives a
version. -/
def directives : Nat → List (List Char × List Char) → Bool → Assemble (List (List Char × List Char))
  | 0, _, _ => malformed
  | fuel + 1, handles, hasVersion => do
    match ← peek with
    | .version major =>
      advance
      if hasVersion ∨ major ≠ 1 then malformed else directives fuel handles true
    | .tagHandle h lead =>
      advance
      if (handles.lookup h).isSome then malformed
      else directives fuel ((h, lead) :: handles) hasVersion
    | .otherDirective => advance; directives fuel handles hasVersion
    | _ => return handles

/-- The directives and the marker in front of a document. The directives decide which handles there
are. -/
def documentHead : Assemble Unit := do
  let own ← directives (← callBound) [] false
  modify fun s =>
    { s with handles := own ++ commonHandles.filter fun (h, _) => (own.lookup h).isNone }
  match ← peek with
  | .documentStart => advance
  | _ => malformed

def skipEnds : Nat → Assemble Unit
  | 0 => malformed
  | fuel + 1 => do
    match ← peek with
    | .documentEnd => advance; skipEnds fuel
    | _ => return

def finish : Assemble Unit := do
  skipEnds (← callBound)
  match ← peek with
  | .streamEnd => return
  | _ => documentHead; malformed

def explicitRoot : Assemble Nat := do
  match ← peek with
  | .documentStart | .documentEnd | .streamEnd | .version _ | .tagHandle .. | .otherDirective =>
    add .empty
  | _ => root

def document : Assemble (Option Nat) := do
  match ← peek with
  | .streamEnd => return none
  | .documentStart | .version _ | .tagHandle .. | .otherDirective =>
    documentHead
    let n ← explicitRoot
    finish
    return some n
  | _ =>
    modify fun s => { s with handles := commonHandles }
    let n ← root
    finish
    return some n

end Assemble
end StepFlow.Yaml
