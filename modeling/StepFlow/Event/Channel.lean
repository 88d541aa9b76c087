import StepFlow.Event.Bus

/-! The way of events to one listener: a buffer, and a consumer that takes one event after the
other. -/
namespace StepFlow

/-- Where a consumer stands between two of its steps. -/
inductive Phase where
  | starting
  /-- About to look into the buffer. -/
  | checking
  /-- The buffer was empty; the next event is handed over directly. -/
  | waiting
  | handed (e : Event)
  | handling (e : Event)
  | done
deriving Repr, Inhabited

/-- What becomes of a consumer after a step: it is ready for the next one, asleep until it is woken,
or over. -/
inductive Standing where
  | ready | asleep | over
deriving DecidableEq, Repr, Inhabited

structure Channel where
  listener : Listener
  buffer : List Event := []
  phase : Phase := .starting
deriving Repr, Inhabited

namespace Channel

/-- Takes an event in: directly where the consumer waits, into the buffer where there is room. -/
def offer? (c : Channel) (capacity : Capacity) (e : Event) : Option Channel :=
  match c.phase with
  | .waiting => some { c with phase := .handed e }
  | _ =>
    if capacity.hasRoom c.buffer.length then some { c with buffer := c.buffer ++ [e] } else none

/-- One step of the consumer, with the event that it has handled, if any. After the end of a closed
channel's buffer it is over. -/
def advance (c : Channel) (closed : Bool) : Channel × Option Event × Standing :=
  match c.phase, c.buffer with
  | .starting, _ => ({ c with phase := .checking }, none, .ready)
  | .checking, e :: es => ({ c with buffer := es, phase := .handling e }, none, .ready)
  | .checking, [] =>
    if closed then ({ c with phase := .done }, none, .over)
    else ({ c with phase := .waiting }, none, .asleep)
  | .waiting, _ => if closed then ({ c with phase := .done }, none, .over) else (c, none, .asleep)
  | .handed e, _ => ({ c with phase := .handling e }, none, .ready)
  | .handling e, _ => ({ c with phase := .checking }, some e, .ready)
  | .done, _ => (c, none, .asleep)

/-- The consumer sleeps until an event is handed to it or its channel is closed. -/
def isWaiting (c : Channel) : Bool :=
  match c.phase with
  | .waiting => true
  | _ => false

/-- A bound for what the consumer has to do until it is over, which every step of it lowers by one
at least. Its end counts three, two of them for what follows it. -/
def effort (c : Channel) : Nat :=
  match c.phase with
  | .starting => 2 * c.buffer.length + 5
  | .checking => 2 * c.buffer.length + 4
  | .waiting => 2 * c.buffer.length + 3
  | .handed _ => 2 * c.buffer.length + 6
  | .handling _ => 2 * c.buffer.length + 5
  | .done => 0

def pending (c : Channel) : List Event :=
  (match c.phase with
  | .handed e | .handling e => [e]
  | _ => []) ++ c.buffer

end Channel
end StepFlow
