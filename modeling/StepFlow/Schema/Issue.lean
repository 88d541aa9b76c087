import StepFlow.Value.Basic

/-! What can be wrong with a field of raw data, where it stands, and how it is reported. -/
namespace StepFlow.Schema

inductive Place where
  | name (s : String)
  | index (n : Int)
deriving DecidableEq, Repr

inductive Problem where
  | missing
  | notText
  | tooShort
  | notUnicode
  | notAction
  | notTuple
  | notMapping
  | notModel (model : String)
  | notPositive
  | belowOne
  | notNumber
  | unreadableNumber
  | notInteger
  | unreadableInteger
  | fractionalInteger
  | oversizedInteger
  | notFinite
  | notBool
  | unreadableBool
  | notPermitted
  | keyNotText
deriving DecidableEq, Repr

namespace Problem

def category : Problem → String
  | missing => "missing"
  | notText => "string_type"
  | tooShort => "string_too_short"
  | notUnicode => "string_unicode"
  | notAction => "enum"
  | notTuple => "tuple_type"
  | notMapping => "dict_type"
  | notModel _ => "model_type"
  | notPositive => "greater_than"
  | belowOne => "greater_than_equal"
  | notNumber => "float_type"
  | unreadableNumber => "float_parsing"
  | notInteger => "int_type"
  | unreadableInteger => "int_parsing"
  | fractionalInteger => "int_from_float"
  | oversizedInteger => "int_parsing_size"
  | notFinite => "finite_number"
  | notBool => "bool_type"
  | unreadableBool => "bool_parsing"
  | notPermitted => "extra_forbidden"
  | keyNotText => "invalid_key"

def message : Problem → String
  | missing => "Field required"
  | notText => "Input should be a valid string"
  | tooShort => "String should have at least 1 character"
  | notUnicode => "Input should be a valid string, unable to parse raw data as a unicode string"
  | notAction =>
    "Input should be 'search', 'analyze', 'synthesize', 'compare', 'recommend' or 'custom'"
  | notTuple => "Input should be a valid tuple"
  | notMapping => "Input should be a valid dictionary"
  | notModel model => "Input should be a valid dictionary or instance of " ++ model
  | notPositive => "Input should be greater than 0"
  | belowOne => "Input should be greater than or equal to 1"
  | notNumber => "Input should be a valid number"
  | unreadableNumber => "Input should be a valid number, unable to parse string as a number"
  | notInteger => "Input should be a valid integer"
  | unreadableInteger => "Input should be a valid integer, unable to parse string as an integer"
  | fractionalInteger => "Input should be a valid integer, got a number with a fractional part"
  | oversizedInteger => "Unable to parse input string as an integer, exceeded maximum size"
  | notFinite => "Input should be a finite number"
  | notBool => "Input should be a valid boolean"
  | unreadableBool => "Input should be a valid boolean, unable to interpret input"
  | notPermitted => "Extra inputs are not permitted"
  | keyNotText => "Keys should be strings"

end Problem

structure Issue where
  place : List Place
  problem : Problem
deriving DecidableEq, Repr

def Issue.within (p : Place) (i : Issue) : Issue := { i with place := p :: i.place }

def Place.toValue : Place → Value
  | name s => .text s
  | index n => .int n

def Issue.toValue (i : Issue) : Value :=
  .record [("type", .text i.problem.category), ("loc", .list (i.place.map Place.toValue)),
    ("msg", .text i.problem.message)]

end StepFlow.Schema
