import StepFlow.Fault.Basic

/-! Taking values apart: parts by name, items in order, entries, and numbers. -/
namespace StepFlow

/-- What a name stands for on a value: another value, null for none, or something that can only be
called. -/
inductive Part where
  | value (v : Value)
  | method
deriving Repr, Inhabited

namespace Value

/-- The text of the value, as the refusal of an operation where there is none. -/
def toText (v : Value) : Except Fault String := v.display.mapError Fault.text

def part (v : Value) (name : String) : Part :=
  match v with
  | mapping entries => .value ((Entries.getText? entries name).getD null)
  | object attributes _ => .value ((attributes.lookup name).getD null)
  | envelope .. | sealed _ =>
    if name = "sources" ∨ name = "confidence" then .method else .value null
  | text _ | bytes _ => if name = "title" then .method else .value null
  | _ => .value null

/-- The items of a value in order: of a text its characters, of bytes their numbers, of a mapping
its keys. -/
def items : Value → Except Fault (List Value)
  | list xs | tuple xs | set xs => .ok xs
  | text s => .ok (s.toList.map fun c => text (String.ofList [c]))
  | bytes bs => .ok (bs.map fun b => int b.toNat)
  | mapping entries => .ok (entries.map Prod.fst)
  | v => .error (.notIterable v.fullTypeName)

def pairs (position : Nat) : List Value → Except Fault (List (Value × Value))
  | [] => .ok []
  | x :: xs => do
    let pair ← match x.items with
      | .error _ => .error (.notSequence position)
      | .ok [k, v] => match k.unhashable? with
        | some type => .error (.unhashable type)
        | none => .ok (k, v)
      | .ok parts => .error (.notPair position parts.length)
    return pair :: (← pairs (position + 1) xs)

/-- An attribute of an object, or the refusal where there is none. -/
def ownAttribute (v : Value) (name : String) : Except Fault Value :=
  match v with
  | object attributes _ => match attributes.lookup name with
    | some x => .ok x
    | none => .error (.noAttribute v.fullTypeName name)
  | v => .error (.noAttribute v.fullTypeName name)

/-- The refusal to call what is no method but an attribute of that name, if there is one. -/
def checkNoAttribute (v : Value) (name : String) : Except Fault Unit :=
  match v with
  | object attributes _ => match attributes.lookup name with
    | some x => .error (.notCallable x.fullTypeName)
    | none => .ok ()
  | _ => .ok ()

/-- The entries of a mapping, or of a sequence of pairs of keys and values. What counts as false has
none. An object with an attribute `keys` is taken for a mapping, which it is not. -/
def toEntries (v : Value) : Except Fault Entries :=
  if v.isTruthy then
    match v with
    | mapping entries => .ok entries
    | v => do
      v.checkNoAttribute "keys"
      return Entries.ofList (← pairs 0 (← v.items))
  else .ok []

def ownEntries (v : Value) : Except Fault Entries :=
  match v with
  | mapping entries => .ok entries
  | v => do
    v.checkNoAttribute "items"
    throw (.noAttribute v.fullTypeName "items")

/-- The sources and the confidence that an output offers; null for what is absent. -/
def sourcesAndConfidence (output : Value) : Except Fault (Value × Value) :=
  match output with
  | envelope sources confidence => .ok (sources, confidence)
  | sealed reason => .error (.foreign "RuntimeError" (some reason))
  | v =>
    let get (name : String) := match v.part name with
      | .value x => x
      | .method => null
    .ok (get "sources", get "confidence")

def countFault (reason : String) (told : Bool) : Fault :=
  if told then .foreign "RuntimeError" (some reason) else .textless "RuntimeError" reason

/-- Whether the value is a collection, text and bytes apart, that has no items. -/
def isEmptyCollection : Value → Except Fault Bool
  | list xs | tuple xs | set xs => .ok xs.isEmpty
  | mapping entries => .ok entries.isEmpty
  | uncounted reason told => .error (countFault reason told)
  | _ => .ok false

/-- Whether the output has a `results` part that is an empty collection. -/
def hasEmptyResults (output : Value) : Except Fault Bool :=
  match output.part "results" with
  | .value v => v.isEmptyCollection
  | .method => .ok false

def literalText (v : Value) : Except Fault String := v.literal.mapError Fault.text

def characters? : Value → Option (List Char)
  | text s => some (s.toList.map Reading.toAscii)
  | bytes bs => some (bs.map fun b => Char.ofNat b.toNat)
  | _ => none

/-- Conversion to a whole number: fractions are cut off, text and bytes are read. -/
def toInt (v : Value) : Except Fault Int :=
  match v with
  | float x => match x with
    | .nan => .error .intOfNaN
    | .infinite _ => .error .intOfInfinity
    | x => .ok (x.truncate?.getD 0)
  | v => match v.asInt?, v.characters? with
    | some n, _ => .ok n
    | none, some cs => match Reading.int cs with
      | .value n => .ok n
      | .tooLong digits => .error (.intTooLong digits)
      | .malformed => do throw (.intUnreadable 10 (← v.literalText))
    | none, none => .error (.intOfOther v.fullTypeName)

def toReal (v : Value) : Except Fault Binary64 :=
  match v with
  | float x => .ok x
  | v => match v.asInt?, v.characters? with
    | some n, _ => match Binary64.ofInt? n with
      | some x => .ok x
      | none => .error .realTooLarge
    | none, some cs => match Reading.real? cs with
      | some x => .ok x
      | none => do throw (.realUnreadable (← v.literalText))
    | none, none => .error (.realOfOther v.fullTypeName)

end Value
end StepFlow
