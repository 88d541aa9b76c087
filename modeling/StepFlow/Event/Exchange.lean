import StepFlow.Event.Channel

/-! The delivery of events: at once by publication, or by emitters through one channel for each
listener. -/
namespace StepFlow

structure LogEntry where
  level : String
  message : String
deriving DecidableEq, Repr, Inhabited

/-- A scope of emission. It opens a channel for a listener with the first event for it. -/
structure Emitter where
  channels : List Channel := []
  closed : Bool := false
  /-- Its scope is still open. -/
  active : Bool := true
  /-- The number of consumers that were started and not yet released. -/
  held : Nat := 0
  /-- The caller waits for the last of them. -/
  awaited : Bool := false
deriving Repr, Inhabited

def Emitter.describe (m : Emitter) : String :=
  s!"EventEmitter(listeners={m.channels.length}, closed=" ++
    (if m.closed then "True)" else "False)")

inductive Task where
  /-- The consumer of a channel, both by position. -/
  | consumer (emitter channel : Nat)
  /-- A consumer of the emitter is over and has to be released. -/
  | release (emitter : Nat)
  /-- Who uses the exchange. -/
  | caller
deriving DecidableEq, Repr, Inhabited

structure Exchange where
  bus : Bus := {}
  /-- The emitters in the order of their opening. -/
  emitters : List Emitter := []
  /-- Those who are ready go on one step each, the first first; who stays ready queues up again at
  the end. -/
  ready : List Task := []
  received : List (String × Event) := []
  log : List LogEntry := []
deriving Repr, Inhabited

def modifyAt {α : Type} (f : α → α) : Nat → List α → List α
  | _, [] => []
  | 0, x :: xs => f x :: xs
  | n + 1, x :: xs => x :: modifyAt f n xs

namespace Exchange

def note (x : Exchange) (level message : String) : Exchange :=
  { x with log := x.log ++ [⟨level, message⟩] }

def receivedBy (x : Exchange) (name : String) : List Event :=
  x.received.filterMap fun r => if r.1 == name then some r.2 else none

/-- A listener handles an event: it receives it, and a failure is noted. -/
def handle (x : Exchange) (l : Listener) (e : Event) : Exchange :=
  let failed := l.failOn (x.receivedBy l.name) e
  let x := { x with received := x.received ++ [(l.name, e)] }
  if failed then x.note "ERROR" ("Event listener " ++ l.describe ++ " failed on " ++ e.kind.name)
  else x

def enqueue (x : Exchange) (tasks : List Task) : Exchange := { x with ready := x.ready ++ tasks }

def modifyEmitter (x : Exchange) (position : Nat) (f : Emitter → Emitter) : Exchange :=
  { x with emitters := modifyAt f position x.emitters }

def stepConsumer (x : Exchange) (position channel : Nat) : Exchange :=
  match x.emitters[position]?.bind fun m => m.channels[channel]?.map fun c =>
    (c.listener, c.advance m.closed) with
  | none => x
  | some (listener, c, handled, standing) =>
    let x := x.modifyEmitter position fun m =>
      { m with channels := modifyAt (fun _ => c) channel m.channels }
    let x := handled.elim x (x.handle listener)
    match standing with
    | .ready => x.enqueue [.consumer position channel]
    | .asleep => x
    | .over => x.enqueue [.release position]

/-- Releases a consumer. With the last one the wait of the caller is over. -/
def release (x : Exchange) (position : Nat) : Exchange :=
  match x.emitters[position]? with
  | none => x
  | some m =>
    let x := x.modifyEmitter position fun m => { m with held := m.held - 1 }
    if m.awaited ∧ m.held ≤ 1 then x.enqueue [.caller] else x

/-- Goes on with those who are ready until the caller's turn comes or nobody is ready, in at most so
many steps. -/
def proceed : Nat → Exchange → Exchange
  | 0, x => x
  | fuel + 1, x =>
    match x.ready with
    | [] => x
    | .caller :: rest => { x with ready := rest }
    | .consumer position channel :: rest =>
      proceed fuel (stepConsumer { x with ready := rest } position channel)
    | .release position :: rest => proceed fuel (release { x with ready := rest } position)

def Task.effort : Task → Nat
  | .release _ => 2
  | _ => 1

/-- A bound for the steps that all who are ready can take, and those whom they wake. -/
def effort (x : Exchange) : Nat :=
  total (x.emitters.map fun m => total (m.channels.map Channel.effort)) +
    total (x.ready.map Task.effort)

def settle (x : Exchange) : Exchange := proceed x.effort x

/-- The caller queues up itself: everyone before it takes a step. -/
def pass (x : Exchange) : Exchange :=
  let x := x.enqueue [.caller]
  proceed x.effort x

/-- Delivers an event at once to every listener of its kind, in the order of subscription. For a
listener that pauses the caller gives way first. -/
def publish (x : Exchange) (e : Event) : Exchange :=
  (x.bus.listeners e.kind).foldl (fun x l =>
    (if l.style = .pausing then x.pass else x).handle l e) x

structure Delivery where
  channels : List Channel
  /-- The channels whose consumers are started or woken, in order. -/
  woken : List Nat := []
  log : List LogEntry := []

/-- Offers an event to the channel of a listener, opened if need be. Where there is no room the
listener misses the event, and a note says so. -/
def Delivery.send (capacity : Capacity) (e : Event) (d : Delivery) (l : Listener) : Delivery :=
  let position := (d.channels.findIdx? fun c => c.listener.name == l.name).getD d.channels.length
  let d : Delivery :=
    if position < d.channels.length then d
    else { d with channels := d.channels ++ [{ listener := l }], woken := d.woken ++ [position] }
  match d.channels[position]?.bind fun c => (c.offer? capacity e).map fun offered =>
    (c.isWaiting, offered) with
  | some (wasWaiting, c) =>
    { d with
      channels := modifyAt (fun _ => c) position d.channels
      woken := if wasWaiting then d.woken ++ [position] else d.woken }
  | none =>
    let text := "Listener buffer full, dropping " ++ e.kind.name ++ " event for " ++ l.describe
    { d with log := d.log ++ [⟨"WARNING", text⟩] }

/-- Emits an event through the emitter at a position. A capacity that means nothing is refused when
a channel has to be opened; a closed emitter drops the event with a note. -/
def emitAt (x : Exchange) (position : Nat) (e : Event) : Except Fault Exchange :=
  match x.emitters[position]? with
  | none => .error (.unknownName "emitter")
  | some m =>
    if m.closed then .ok (x.note "WARNING" ("Dropping " ++ e.kind.name ++ " event: emitter closed"))
    else
      let listeners := x.bus.listeners e.kind
      match (if listeners.all fun l => m.channels.any fun c => c.listener.name == l.name then .ok ()
          else x.bus.capacity.check) with
      | .error f => .error f
      | .ok () =>
        let d := listeners.foldl (Delivery.send x.bus.capacity e) { channels := m.channels }
        let opened := d.channels.length - m.channels.length
        let x := x.modifyEmitter position fun m =>
          { m with channels := d.channels, held := m.held + opened }
        .ok ({ x with log := x.log ++ d.log }.enqueue (d.woken.map (.consumer position)))

/-- The position of the innermost open emitter, or else of the one opened last. -/
def current? (x : Exchange) : Option Nat :=
  let position (p : Emitter → Bool) := (x.emitters.reverse.findIdx? p).map fun i =>
    x.emitters.length - 1 - i
  position Emitter.active <|> position fun _ => true

def emit (x : Exchange) (e : Event) : Except Fault Exchange :=
  match x.current? with
  | some position => x.emitAt position e
  | none => .error (.unknownName "emitter")

def enter (x : Exchange) : Exchange := { x with emitters := x.emitters ++ [{}] }

/-- Stops the emitter at a position from taking events, and wakes the consumers that wait for
one. -/
def closeAt (x : Exchange) (position : Nat) : Exchange :=
  match x.emitters[position]? with
  | none => x
  | some m =>
    if m.closed then x
    else
      let waiting := m.channels.zipIdx.filterMap fun (c, i) =>
        if c.isWaiting then some (Task.consumer position i) else none
      (x.modifyEmitter position fun m => { m with closed := true }).enqueue waiting

def close (x : Exchange) : Except Fault Exchange :=
  match x.current? with
  | some position => .ok (x.closeAt position)
  | none => .error (.unknownName "emitter")

/-- Ends the scope of the emitter at a position: its consumers handle all that is left, and the
caller waits for them. Without any it gives way once. -/
def leaveAt (x : Exchange) (position : Nat) : Exchange :=
  let x := x.closeAt position
  let x := if (x.emitters[position]?).any fun m => 0 < m.held then
      let x := x.modifyEmitter position fun m => { m with awaited := true }
      proceed x.effort x
    else x.pass
  x.modifyEmitter position fun m => { m with active := false }

def leave (x : Exchange) : Exchange :=
  match x.current? with
  | some position => x.leaveAt position
  | none => x

end Exchange
end StepFlow
