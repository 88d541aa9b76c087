import StepFlow.Fault.Basic

/-! A handle to cancel a run, and the scopes that its cancellation reaches. -/
namespace StepFlow

/-- A token. Scopes are numbered in the order in which they are entered. -/
structure Token where
  cancelled : Bool := false
  reason : Option String := none
  /-- The number of scopes that were ever entered. -/
  entered : Nat := 0
  /-- The scopes that were entered and not yet left. -/
  inFlight : List Nat := []
  /-- The scopes that the cancellation has reached. -/
  reached : List Nat := []
deriving DecidableEq, Repr, Inhabited

namespace Token

/-- Cancels all scopes in flight. Only the first call has an effect. -/
def cancel (t : Token) (reason : Option String) : Token :=
  if t.cancelled then t
  else { t with cancelled := true, reason, reached := t.reached ++ t.inFlight }

/-- Enters a scope. After a cancellation it is reached at once. -/
def enter (t : Token) : Nat × Token :=
  (t.entered, { t with
    entered := t.entered + 1
    inFlight := t.inFlight ++ [t.entered]
    reached := if t.cancelled then t.reached ++ [t.entered] else t.reached })

def leave (t : Token) (scope : Nat) : Token := { t with inFlight := t.inFlight.filter (· != scope) }

def hasReached (t : Token) (scope : Nat) : Bool := t.reached.contains scope

def check (t : Token) : Except Fault Unit :=
  if t.cancelled then .error (.cancelled t.reason) else .ok ()

def describe (t : Token) : String :=
  "CancelToken(cancelled=" ++ (if t.cancelled then "True" else "False") ++
    s!", in_flight={t.inFlight.length})"

inductive ScopeAction where
  /-- A point at which a cancellation takes effect. -/
  | pause
  | cancel (reason : Option String)
  | raise (f : Fault)

structure ScopeReport where
  inside : String
  /-- How many of the actions were done. -/
  done : Nat
  cancelCalled : Bool
  /-- A pause ended the scope early. -/
  caught : Bool

/-- The number of actions done, whether a pause ended them early, and the token after them. -/
def act (scope : Nat) (t : Token) (done : Nat) :
    List ScopeAction → Except Fault (Nat × Bool) × Token
  | [] => (.ok (done, false), t)
  | .pause :: rest =>
    if t.hasReached scope then (.ok (done, true), t) else act scope t (done + 1) rest
  | .cancel reason :: rest => act scope (t.cancel reason) (done + 1) rest
  | .raise f :: _ => (.error f, t)

/-- Acts inside a scope of its own, which is left in any case. -/
def within (t : Token) (actions : List ScopeAction) : Except Fault ScopeReport × Token :=
  let (scope, opened) := t.enter
  let (result, t) := act scope opened 0 actions
  (result.map fun (done, caught) => ⟨opened.describe, done, t.hasReached scope, caught⟩,
    t.leave scope)

end Token
end StepFlow
