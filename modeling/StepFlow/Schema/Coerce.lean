import StepFlow.Kind
import StepFlow.Schema.Checked
import StepFlow.Schema.Numeral
import StepFlow.Table
import StepFlow.Text.Utf8
import StepFlow.Value.Literal

/-! Reading typed fields out of raw data, with the conversions that lose nothing. -/
namespace StepFlow.Schema

open Checked

def text : Value → Checked String
  | .text s => good s
  | .bytes bs => match Text.ofUtf8? bs with
    | some s => good s
    | none => issue .notUnicode
  | _ => issue .notText

def nonEmptyText (v : Value) : Checked String :=
  (text v).andThen fun s => if s.isEmpty then issue .tooShort else good s

/-- Null where it is allowed. -/
def optional {α : Type} (check : Value → Checked α) : Value → Checked (Option α)
  | .null => good none
  | v => (check v).map some

def action (v : Value) : Checked ActionKind :=
  match text v with
  | good s => match ActionKind.ofName? s with
    | some a => good a
    | none => issue .notAction
  | bad _ => issue .notAction

def spelling? : Value → Option (Option String)
  | .text s => some (some s)
  | .bytes bs => some (Text.ofUtf8? bs)
  | _ => none

def real (v : Value) : Checked Binary64 :=
  match v with
  | .float x => good x
  | .text _ | .bytes _ => match ((spelling? v).bind id).bind Numeral.real? with
    | some x => good x
    | none => issue .unreadableNumber
  | _ => match v.asInt?.bind Binary64.ofInt? with
    | some x => good x
    | none => issue .notNumber

def positive (v : Value) : Checked Binary64 :=
  (real v).andThen fun x => if x.isPositive then good x else issue .notPositive

def wordEnd : Int := twoTo 63

/-- The whole numbers of 64 bits, both ends excluded: those that a double may stand for. -/
def inWordRange (n : Int) : Bool := -wordEnd < n && n < wordEnd

def wholeNumber (x : Binary64) : Checked Int :=
  match x with
  | .finite .. => match x.toInt? with
    | some n => if inWordRange n then good n else issue .oversizedInteger
    | none => issue .fractionalInteger
  | _ => issue .notFinite

def integer (v : Value) : Checked Int :=
  match v with
  | .bool _ | .int _ => good (v.asInt?.getD 0)
  | .float x => wholeNumber x
  | .text _ | .bytes _ => match ((spelling? v).bind id).map Numeral.int with
    | some (.value n) => good n
    | some (.tooLong _) => issue .oversizedInteger
    | _ => issue .unreadableInteger
  | _ => issue .notInteger

def atLeastOne (v : Value) : Checked Int :=
  (integer v).andThen fun n => if 1 ≤ n then good n else issue .belowOne

def boolWord? (s : String) : Option Bool :=
  let w := s.map Char.toLower
  if w ∈ ["0", "off", "f", "false", "n", "no"] then some false
  else if w ∈ ["1", "on", "t", "true", "y", "yes"] then some true
  else none

def zeroOrOne (n : Int) : Checked Bool :=
  if n = 0 then good false
  else if n = 1 then good true
  else if -wordEnd ≤ n ∧ n < wordEnd then issue .unreadableBool
  else issue .notBool

def boolean (v : Value) : Checked Bool :=
  match v with
  | .bool b => good b
  | .int n => zeroOrOne n
  | .float x => match wholeNumber x with
    | good n => zeroOrOne n
    | bad _ => issue .notBool
  | .text _ | .bytes _ => match ((spelling? v).bind id).bind boolWord? with
    | some b => good b
    | none => issue .unreadableBool
  | _ => issue .notBool

def sequence {α : Type} (check : Value → Checked α) : Value → Checked (List α)
  | .list xs | .tuple xs | .set xs => elements check xs
  | _ => issue .notTuple

/-- The place that a key of a mapping stands for: small integers as positions, anything else by its
text. -/
def keyPlace (key : Value) : Place :=
  match key with
  | .text s => .name s
  | .bool _ | .int _ =>
    let n := key.asInt?.getD 0
    if -wordEnd ≤ n ∧ n < wordEnd then .index n else .name (toString n)
  | _ => match key.literal with
    | .ok s => .name s
    | .error _ => .name ("<unprintable " ++ key.typeName ++ " object>")

/-- The checked entries of a mapping. Where two keys come out equal, the first keeps its place and
the last its value. An issue with a key stands before the issues of its value. -/
def table {κ α : Type} [BEq κ] (key : Value → Checked κ) (value : Value → Checked α) :
    Value → Checked (List (κ × α))
  | .mapping entries => (go entries).map fun pairs => pairs.foldl put []
  | _ => issue .notMapping
where
  go : List (Value × Value) → Checked (List (κ × α))
    | [] => good []
    | (k, v) :: entries =>
      let place := keyPlace k
      (fun k v rest => (k, v) :: rest) <$> ((key k).within (.name "[key]")).within place <*>
        (value v).within place <*> go entries
  put (table : List (κ × α)) (pair : κ × α) : List (κ × α) := assign pair.1 pair.2 table

def model (name : String) : Value → Checked Entries
  | .mapping entries => good entries
  | _ => issue (.notModel name)

/-- The first of the names under which a field is present, with its value. -/
def present? (entries : Entries) : List String → Option (String × Value)
  | [] => none
  | name :: names => match entries.getText? name with
    | some v => some (name, v)
    | none => present? entries names

/-- A field under the first of its names that is present, or its default. -/
def field {α : Type} (entries : Entries) (names : List String) (default : α)
    (check : Value → Checked α) : Checked α :=
  match present? entries names with
  | some (name, v) => (check v).within (.name name)
  | none => good default

def required {α : Type} (entries : Entries) (name : String) (check : Value → Checked α) :
    Checked α :=
  match entries.getText? name with
  | some v => (check v).within (.name name)
  | none => (issue .missing).within (.name name)

end StepFlow.Schema
