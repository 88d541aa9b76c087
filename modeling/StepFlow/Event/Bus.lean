import StepFlow.Event.Basic
import StepFlow.Number.Basic
import StepFlow.Table

/-! Listeners and their subscriptions to kinds of events. -/
namespace StepFlow

/-- How a listener handles an event: after a pause, at once, or at once with a result to wait
for. -/
inductive ListenerStyle where
  | pausing | direct | deferred
deriving DecidableEq, Repr, Inhabited

/-- Whether a listener fails on an event, after those that it has received before. -/
abbrev Failing := List Event → Event → Bool

def Failing.ofSteps (stepIds : List String) : Failing :=
  fun _ e => (e.stepId.map stepIds.contains).getD false

instance : Coe (List String) Failing := ⟨Failing.ofSteps⟩

/-- A listener. It records every event, and may then fail on it. Its name is its own; another
listener may go by the same label. -/
structure Listener where
  name : String
  label : String := name
  style : ListenerStyle := .pausing
  failOn : Failing := fun _ _ => false
deriving Inhabited

namespace Listener

def describe (l : Listener) : String := "<listener " ++ l.label ++ ">"

/-- Two listeners of one label count as equal. -/
instance : BEq Listener := ⟨fun l m => l.name == m.name || l.label == m.label⟩

instance : Repr Listener := ⟨fun l _ => .text l.describe⟩

end Listener

inductive Capacity where
  | unlimited
  | limit (n : Nat)
  | negative
  | fractional
deriving DecidableEq, Repr, Inhabited

namespace Capacity

/-- Whole numbers and infinity are meaningful. -/
def ofValue (v : Value) : Capacity :=
  match v, v.asInt? with
  | .float (.infinite false), _ => unlimited
  | _, some n => if n < 0 then negative else limit n.toNat
  | _, none => fractional

def check : Capacity → Except Fault Unit
  | negative => .error .bufferNegative
  | fractional => .error .bufferFractional
  | _ => .ok ()

def hasRoom (c : Capacity) (waiting : Nat) : Bool :=
  match c with
  | unlimited => true
  | limit n => waiting < n
  | _ => false

end Capacity

/-- The subscriptions by kind, in the order in which the kinds were first subscribed to. -/
structure Bus where
  capacity : Capacity := .unlimited
  subscriptions : List (EventKind × List Listener) := []
deriving Repr, Inhabited

namespace Bus

def listeners (b : Bus) (kind : EventKind) : List Listener := (b.subscriptions.lookup kind).getD []

def subscribe (b : Bus) (kind : EventKind) (l : Listener) : Bus :=
  let ls := b.listeners kind
  { b with subscriptions := assign kind (if ls.contains l then ls else ls ++ [l]) b.subscriptions }

def isSubscribed (b : Bus) (kind : EventKind) (l : Listener) : Bool := (b.listeners kind).contains l

def unsubscribe (b : Bus) (kind : EventKind) (l : Listener) : Bus :=
  if b.isSubscribed kind l then
    { b with subscriptions := assign kind ((b.listeners kind).erase l) b.subscriptions }
  else b

def clear (b : Bus) : Bus := { b with subscriptions := [] }

def size (b : Bus) : Nat := total (b.subscriptions.map fun s => s.2.length)

def describe (b : Bus) : String :=
  let counts := (b.subscriptions.filter fun s => !s.2.isEmpty).map fun s =>
    Text.Quoted.ofString s.1.name ++ s!": {s.2.length}"
  "EventBus(listeners=\x7b" ++ ", ".intercalate counts ++ "\x7d)"

end Bus
end StepFlow
