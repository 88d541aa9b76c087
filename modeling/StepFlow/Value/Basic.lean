import StepFlow.Calendar.Iso
import StepFlow.Number.Shortest
import StepFlow.Text.Quoted

/-! The values that flows carry: what flow files hold, what callers pass in and what workers
reply. -/
namespace StepFlow

/-- A value. Mappings keep the order in which their keys were first given. -/
inductive Value where
  | null
  | bool (b : Bool)
  | int (n : Int)
  | float (x : Binary64)
  | text (s : String)
  | bytes (bs : List UInt8)
  | list (xs : List Value)
  | tuple (xs : List Value)
  /-- A set, its members in the order in which they were first given. -/
  | set (xs : List Value)
  | mapping (entries : List (Value × Value))
  | date (d : Date)
  | moment (m : Moment)
  /-- A plain object with the given attributes and the text it goes by. -/
  | object (attributes : List (String × Value)) (shown : String)
  /-- An object that answers with its sources and confidence on request. -/
  | envelope (sources confidence : Value)
  /-- An object that fails with the given reason when it is asked for its sources and confidence. -/
  | sealed (reason : String)
  /-- An object that fails with the given reason when its text is asked for. -/
  | unprintable (reason : String)
  /-- A collection that fails with the given reason when its members are counted, or with a failure
  that cannot tell it. -/
  | uncounted (reason : String) (told : Bool := true)
deriving Repr, Inhabited

namespace Value

def record (fields : List (String × Value)) : Value :=
  mapping (fields.map fun (k, v) => (text k, v))

def texts (ss : List String) : Value := list (ss.map text)

def ofOption {α : Type} (f : α → Value) : Option α → Value
  | none => null
  | some a => f a

def optText (s : Option String) : Value := ofOption text s

def typeName : Value → String
  | null => "NoneType"
  | bool _ => "bool"
  | int _ => "int"
  | float _ => "float"
  | text _ => "str"
  | bytes _ => "bytes"
  | list _ => "list"
  | tuple _ => "tuple"
  | set _ => "set"
  | mapping _ => "dict"
  | date _ => "date"
  | moment _ => "datetime"
  | object .. => "Obj"
  | envelope .. | sealed _ => "Envelope"
  | unprintable _ => "BadStr"
  | uncounted .. => "Uncounted"

def fullTypeName : Value → String
  | date d => "datetime." ++ (date d).typeName
  | moment m => "datetime." ++ (moment m).typeName
  | v => v.typeName

/-- Whether the value counts as true: zeros, empty texts, empty collections and null do not. -/
def isTruthy : Value → Bool
  | null => false
  | bool b => b
  | int n => n != 0
  | float x => !x.isZero
  | text s => !s.isEmpty
  | bytes bs => !bs.isEmpty
  | list xs | tuple xs | set xs => !xs.isEmpty
  | mapping entries => !entries.isEmpty
  | _ => true

def isNull : Value → Bool
  | null => true
  | _ => false

def asInt? : Value → Option Int
  | bool b => some (if b then 1 else 0)
  | int n => some n
  | _ => none

def sameNumber (x y : Value) : Bool :=
  match x.asInt?, y.asInt?, x, y with
  | some m, some n, _, _ => m == n
  | some m, none, _, float y => y.toInt? == some m
  | none, some n, float x, _ => x.toInt? == some n
  | _, _, float x, float y => x.eqNumber y
  | _, _, _, _ => false

/-- Moments are equal if they are the same instant; with and without an offset they never are. -/
def sameMoment (a b : Moment) : Bool :=
  match a.offset, b.offset with
  | none, none => a == b
  | some _, some _ => a.instant == b.instant
  | _, _ => false

mutual
def sameKey : Value → Value → Bool
  | null, null => true
  | text s, text t => s == t
  | bytes s, bytes t => s == t
  | tuple xs, tuple ys => sameKeys xs ys
  | date a, date b => a == b
  | moment a, moment b => sameMoment a b
  | x, y => sameNumber x y

def sameKeys : List Value → List Value → Bool
  | [], [] => true
  | x :: xs, y :: ys => sameKey x y && sameKeys xs ys
  | _, _ => false
end

mutual
/-- The type name of the innermost part that keeps the value from being a key. -/
def unhashable? : Value → Option String
  | list _ => some "list"
  | mapping _ => some "dict"
  | set _ => some "set"
  | tuple xs => firstUnhashable? xs
  | _ => none

def firstUnhashable? : List Value → Option String
  | [] => none
  | x :: xs => unhashable? x <|> firstUnhashable? xs
end

end Value

abbrev Entries := List (Value × Value)

namespace Entries

def get? (entries : Entries) (key : Value) : Option Value :=
  (entries.find? fun e => e.1.sameKey key).map Prod.snd

def getText? (entries : Entries) (key : String) : Option Value := entries.get? (.text key)

def hasText (entries : Entries) (key : String) : Bool := (entries.getText? key).isSome

/-- Sets the value under a key: in place if the key is there, at the end otherwise. -/
def insert (entries : Entries) (key value : Value) : Entries :=
  match entries with
  | [] => [(key, value)]
  | (k, v) :: rest => if k.sameKey key then (k, value) :: rest else (k, v) :: insert rest key value

def ofList (pairs : List (Value × Value)) : Entries :=
  pairs.foldl (fun es (k, v) => insert es k v) []

def insertNew (entries : Entries) (key value : Value) : Entries :=
  if (entries.get? key).isSome then entries else insert entries key value

end Entries
end StepFlow
