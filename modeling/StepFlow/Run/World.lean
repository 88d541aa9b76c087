import StepFlow.Event.Exchange
import StepFlow.Run.Token
import StepFlow.Worker.Registry

/-! What a run acts upon: the memory of the workers, the record of their calls, its token, and the
exchange of events with the record of those that were emitted. -/
namespace StepFlow

structure World (σ : Type) where
  memory : σ
  calls : List Call := []
  /-- The token of the run; without one nobody can cancel it. -/
  token : Option Token := none
  exchange : Exchange := {}
  /-- The events that were emitted, in order. -/
  emitted : List Event := []
  /-- Whether events are emitted at all. -/
  emitting : Bool := true
  /-- The deadline of the job in progress, or of the last one, has passed. -/
  overdue : Bool := false
  /-- The moment that is stamped on everything. -/
  now : Moment := .epoch

namespace World
variable {σ : Type}

def openEmitter (w : World σ) : World σ := { w with exchange := w.exchange.enter, emitting := true }

/-- The world after its emitter is closed and all listeners have handled all events. -/
def closeEmitter (w : World σ) : World σ := { w with exchange := w.exchange.leave }

def emit (w : World σ) (e : Event) : Except Fault Unit × World σ :=
  if w.emitting then
    match w.exchange.emit e with
    | .ok exchange => (.ok (), { w with exchange, emitted := w.emitted ++ [e] })
    | .error f => (.error f, w)
  else (.ok (), w)

def settle (w : World σ) : World σ := { w with exchange := w.exchange.settle }

def cancel (w : World σ) (reason : Option String) : World σ :=
  { w with token := w.token.map (·.cancel reason) }

def checkToken (w : World σ) : Except Fault Unit := (w.token.map Token.check).getD (.ok ())

/-- Enters a scope of the token, if there is one. No deadline has passed in it yet. -/
def enterScope (w : World σ) : Option Nat × World σ :=
  match w.token with
  | some t => (some t.enter.1, { w with token := some t.enter.2, overdue := false })
  | none => (none, { w with overdue := false })

def leaveScope (w : World σ) (scope : Option Nat) : World σ :=
  match w.token, scope with
  | some t, some s => { w with token := some (t.leave s) }
  | _, _ => w

def isReached (w : World σ) (scope : Option Nat) : Bool :=
  match w.token, scope with
  | some t, some s => t.hasReached s
  | _, _ => false

end World
end StepFlow
