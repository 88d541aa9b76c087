import StepFlow.Number.Reading
import StepFlow.Value.Basic

/-! The text of a value: bare for a text that stands alone, a literal for everything inside a
collection. -/
namespace StepFlow

inductive TextDefect where
  /-- The object failed while its text was made. -/
  | unprintable (reason : String)
  /-- A whole number of too many digits. -/
  | tooManyDigits
deriving DecidableEq, Repr

namespace Value

def intText (n : Int) : Except TextDefect String :=
  if tenTo Reading.maxDigits ≤ n.natAbs then .error .tooManyDigits else .ok (toString n)

def bracketed (left : String) (items : List String) (right : String) : String :=
  left ++ ", ".intercalate items ++ right

def setText (items : List String) : String :=
  if items.isEmpty then "set()" else bracketed "\x7b" items "\x7d"

def tupleText : List String → String
  | [item] => "(" ++ item ++ ",)"
  | items => bracketed "(" items ")"

mutual
def literal : Value → Except TextDefect String
  | null => .ok "None"
  | bool b => .ok (if b then "True" else "False")
  | int n => intText n
  | float x => .ok x.toText
  | text s => .ok (Text.Quoted.ofString s)
  | bytes bs => .ok (String.ofList (Text.Quoted.encodeBytes bs))
  | list xs => do return bracketed "[" (← literals xs) "]"
  | tuple xs => do return tupleText (← literals xs)
  | set xs => do return setText (← literals xs)
  | mapping entries => do return bracketed "\x7b" (← entryLiterals entries) "\x7d"
  | date d => .ok d.literal
  | moment m => .ok m.literal
  | object _ shown => .ok shown
  | envelope .. | sealed _ => .ok "<envelope>"
  | unprintable reason => .error (.unprintable reason)
  | uncounted .. => .ok "<uncounted>"

def literals : List Value → Except TextDefect (List String)
  | [] => .ok []
  | x :: xs => do
    let s ← literal x
    return s :: (← literals xs)

def entryLiterals : List (Value × Value) → Except TextDefect (List String)
  | [] => .ok []
  | (k, v) :: entries => do
    let key ← literal k
    let value ← literal v
    return (key ++ ": " ++ value) :: (← entryLiterals entries)
end

def display : Value → Except TextDefect String
  | text s => .ok s
  | date d => .ok d.toIso
  | moment m => .ok (m.toIso " " false)
  | v => literal v

end Value
end StepFlow
