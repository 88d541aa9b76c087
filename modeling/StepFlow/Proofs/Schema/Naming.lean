/-!
# Names in camel case

A name with underscores is written in camel case by leaving out each underscore before a letter and
raising that letter.
-/
namespace StepFlow.Schema

def camelChars : List Char → List Char
  | '_' :: c :: cs => c.toUpper :: camelChars cs
  | c :: cs => c :: camelChars cs
  | [] => []

def camelCase (name : String) : String := String.ofList (camelChars name.toList)

example : camelCase "default_start_step" = "defaultStartStep" := by decide +kernel

end StepFlow.Schema
