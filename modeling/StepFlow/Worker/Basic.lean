import StepFlow.Action.Request
import StepFlow.Table

/-! Workers: they answer requests for the actions that they declare. -/
namespace StepFlow

/-- What comes back from a worker, in this order: it may cancel the run that asks it, it may be so
late that any deadline passes first, and it is a value or a fault. -/
structure Reply where
  cancel : Option (Option String) := none
  late : Bool := false
  /-- The worker is not cut off while it is late: what it comes to in the end counts, whether it
  waits until it is done or answers a deadline or a cancellation in its own way. -/
  unyielding : Bool := false
  outcome : Except Fault Value

structure Invocation where
  action : ActionKind
  request : Request
  config : List (String × Value)

abbrev Answering (σ : Type) := Invocation → σ → Reply × σ

/-- How a function runs: inline, aside while the run that asks waits for it, or inline after it was
prepared aside. -/
inductive Manner where
  | inline | aside | prepared
deriving DecidableEq, Repr, Inhabited

inductive Capability (σ : Type) where
  /-- Named methods, each for the actions that it declares. -/
  | methods (table : List (String × List ActionKind)) (answer : String → Answering σ)
  /-- One function for some of the actions. -/
  | function (actions : List ActionKind) (manner : Manner) (answer : Answering σ)

structure Worker (σ : Type) where
  name : String
  typeName : String
  capability : Capability σ

structure Call where
  worker : String
  invocation : Invocation
  reply : Reply

def Call.toValue (c : Call) : Value := .record [
  ("worker", .text c.worker),
  ("action", .text c.invocation.action.name),
  ("request", c.invocation.request.toValue),
  ("config", .record c.invocation.config)]

namespace Capability
variable {σ : Type}

/-- Methods under names that start with an underscore are not offered. -/
def isOffered (name : String) : Bool := name.toList.head? != some '_'

/-- What the offered methods claim, in the order of their names: actions, each with the method that
claims it. -/
def claims (table : List (String × List ActionKind)) : List (ActionKind × String) :=
  ((table.filter fun m => isOffered m.1).mergeSort fun m n => !decide (n.1 < m.1)).flatMap fun m =>
    m.2.map fun a => (a, m.1)

/-- The methods by the actions that they answer. A later claim takes the place of an earlier one. -/
def methodTable (table : List (String × List ActionKind)) : List (ActionKind × String) :=
  (claims table).foldl (fun methods claim => assign claim.1 claim.2 methods) []

def actions : Capability σ → List ActionKind
  | methods table _ => (methodTable table).map Prod.fst
  | function actions _ _ => actions.eraseDups

def supports (a : ActionKind) : Capability σ → Bool
  | methods table _ => hasKey a (methodTable table)
  | function actions _ _ => actions.contains a

def answering? (a : ActionKind) : Capability σ → Option (Answering σ)
  | methods table answer => ((methodTable table).lookup a).map answer
  | function actions _ answer => if actions.contains a then some answer else none

/-- How requests are answered; methods always answer inline. -/
def manner : Capability σ → Manner
  | methods .. => .inline
  | function _ m _ => m

end Capability

namespace Worker
variable {σ : Type}

def supports (w : Worker σ) (a : ActionKind) : Bool := w.capability.supports a

def actions (w : Worker σ) : List ActionKind := w.capability.actions

def actionNames (w : Worker σ) : List String := Text.sorted (w.actions.map ActionKind.name)

def answering (w : Worker σ) (a : ActionKind) : Except Fault (Answering σ) :=
  match w.capability.answering? a with
  | some answer => .ok answer
  | none => .error (.unsupportedAction w.name a)

def describe (w : Worker σ) : String :=
  w.typeName ++ "(name=" ++ Text.Quoted.ofString w.name ++ ", actions=" ++
    Text.Quoted.list w.actionNames ++ ")"

def declare (actions : List Value) : Except Fault (List ActionKind) :=
  if actions.isEmpty then .error .handlesNothing else actions.mapM ActionKind.ofValue

/-- The actions of a worker with one function: those that are given, or else all. -/
def choose (given : Option (List Value)) : Except Fault (List ActionKind) :=
  match given with
  | none => .ok ActionKind.all
  | some actions => actions.mapM ActionKind.ofValue

end Worker
end StepFlow
