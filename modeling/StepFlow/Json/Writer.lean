import StepFlow.Text.Utf16
import StepFlow.Value.Access

/-! Values as JSON in ASCII, on one line or indented. What JSON has no form for is written as the
text of the value. -/
namespace StepFlow.Json

def escapeChar (c : Char) : List Char :=
  if c = '"' then ['\\', '"']
  else if c = '\\' then ['\\', '\\']
  else if c = '\n' then ['\\', 'n']
  else if c = '\r' then ['\\', 'r']
  else if c = '\t' then ['\\', 't']
  else if c.toNat = 8 then ['\\', 'b']
  else if c.toNat = 12 then ['\\', 'f']
  else if 32 ≤ c.toNat ∧ c.toNat < 127 then [c]
  else (Text.units16 c.toNat).flatMap fun n => '\\' :: 'u' :: Text.hex 4 n

def quoted (s : String) : List Char := '"' :: s.toList.flatMap escapeChar ++ ['"']

/-- Where lines break: nowhere, or around every item, indented by so many columns a level. -/
structure Layout where
  indent : Option Nat

def compact : Layout := ⟨none⟩

def indented : Layout := ⟨some 2⟩

def Layout.lineBreak (l : Layout) (depth : Nat) : List Char :=
  match l.indent with
  | none => []
  | some n => '\n' :: List.replicate (n * depth) ' '

def Layout.separator (l : Layout) (depth : Nat) : List Char :=
  match l.indent with
  | none => [',', ' ']
  | some _ => ',' :: l.lineBreak depth

/-- Items between brackets; none at all leave the brackets on one line. -/
def Layout.bracket (l : Layout) (depth : Nat) (left : Char) (items : List (List Char))
    (right : Char) : List Char :=
  if items.isEmpty then [left, right]
  else left :: l.lineBreak (depth + 1) ++ (l.separator (depth + 1)).intercalate items ++
    l.lineBreak depth ++ [right]

def realText (x : Binary64) : String := x.write "Infinity" "NaN"

def boolText (b : Bool) : String := if b then "true" else "false"

/-- The text of a key: texts as they are, numbers, bools and null as they are written. -/
def keyText (l : Layout) : Value → Except Fault String
  | .text s => .ok s
  | .null => .ok "null"
  | .bool b => .ok (boolText b)
  | .int n => (Value.intText n).mapError Fault.text
  | .float x => .ok (realText x)
  | v => .error (.unwritableKey (if l.indent.isSome then v.typeName else v.fullTypeName))

mutual
def write (l : Layout) (depth : Nat) : Value → Except Fault (List Char)
  | .null => .ok "null".toList
  | .bool b => .ok (boolText b).toList
  | .int n => do return (← (Value.intText n).mapError Fault.text).toList
  | .float x => .ok (realText x).toList
  | .text s => .ok (quoted s)
  | .list xs => do return l.bracket depth '[' (← writeItems l (depth + 1) xs) ']'
  | .tuple xs => do return l.bracket depth '[' (← writeItems l (depth + 1) xs) ']'
  | .mapping entries =>
    do return l.bracket depth '\x7b' (← writeEntries l (depth + 1) entries) '\x7d'
  | v => do return quoted (← v.toText)

def writeItems (l : Layout) (depth : Nat) : List Value → Except Fault (List (List Char))
  | [] => .ok []
  | x :: xs => do
    let item ← write l depth x
    return item :: (← writeItems l depth xs)

def writeEntries (l : Layout) (depth : Nat) : List (Value × Value) → Except Fault (List (List Char))
  | [] => .ok []
  | (k, v) :: entries => do
    let key ← keyText l k
    let value ← write l depth v
    return (quoted key ++ ':' :: ' ' :: value) :: (← writeEntries l depth entries)
end

def render (l : Layout) (v : Value) : Except Fault String := do return String.ofList (← write l 0 v)

end StepFlow.Json
