import StepFlow.Proofs.Event.Sending

/-!
# Delivery

Within the scope of an emitter events are emitted and subscriptions change, and in between the
consumers take their steps in any order. Whatever happens there, and however it ends: a listener
receives the events that were emitted while it was subscribed to their kinds, each once and in
order, but for those that found its buffer full. Turns after a `close` stand for an end of the scope
at which the consumers go on in another order than that of the queue.
-/
namespace StepFlow

inductive Move where
  | emit (e : Event)
  | subscribe (kind : EventKind) (l : Listener)
  | unsubscribe (kind : EventKind) (l : Listener)
  | clear
  | turn (t : Task)
  | close
  /-- The scope is left with a fault. -/
  | raise (fault : Fault)

def Bus.after (b : Bus) : Move → Bus
  | .subscribe kind l => b.subscribe kind l
  | .unsubscribe kind l => b.unsubscribe kind l
  | .clear => b.clear
  | _ => b

theorem Bus.capacity_after (b : Bus) (move : Move) : (b.after move).capacity = b.capacity := by
  cases move with
  | unsubscribe kind l =>
    unfold after unsubscribe
    dsimp only
    split <;> rfl
  | _ => rfl

theorem Bus.Distinct.after {b : Bus} (h : b.Distinct) (move : Move) : (b.after move).Distinct := by
  cases move with
  | subscribe kind l => exact h.subscribe kind l
  | unsubscribe kind l => exact h.unsubscribe kind l
  | clear => exact distinct_of_empty rfl
  | _ => exact h

abbrev Bus.Hears (b : Bus) (kind : EventKind) (name : String) : Prop :=
  name ∈ (b.listeners kind).map Listener.name

/-- The events that are emitted before the end of the emitter while a listener is subscribed to
their kinds. -/
def Bus.due (b : Bus) (name : String) : List Move → List Event
  | [] => []
  | .close :: _ => []
  | .raise _ :: _ => []
  | .emit e :: rest => (if b.Hears e.kind name then [e] else []) ++ b.due name rest
  | move :: rest => (b.after move).due name rest

def Move.closes : Move → Bool
  | .close => true
  | _ => false

/-- The fault with which the scope is left by a move, if there is one. -/
def Move.raised : List Move → Except Fault Unit
  | [] => .ok ()
  | .raise fault :: _ => .error fault
  | _ :: rest => raised rest

/-- An event that is emitted for a listener: whether its consumer waits for one, and how many are in
its buffer. -/
structure Offer where
  event : Event
  waits : Bool
  buffered : Nat

def Offer.taken (capacity : Capacity) (o : Offer) : Bool := o.waits || capacity.hasRoom o.buffered

theorem Offer.full {n : Nat} {o : Offer} (hmissed : o.taken (.limit n) = false) : n ≤ o.buffered :=
  Nat.le_of_not_lt (of_decide_eq_false (Bool.or_eq_false_iff.1 hmissed).2)

theorem Offer.taken_eq (capacity : Capacity) (e : Event) (c : Channel) :
    Offer.taken capacity ⟨e, c.isWaiting, c.buffer.length⟩ = c.accepts capacity := rfl

namespace Exchange

def turn (x : Exchange) (t : Task) : Exchange :=
  if t ∈ x.ready then x.take t (x.ready.erase t) else x

def move (x : Exchange) : Move → Except Fault Exchange
  | .emit e => x.emit e
  | .subscribe kind l => .ok { x with bus := x.bus.subscribe kind l }
  | .unsubscribe kind l => .ok { x with bus := x.bus.unsubscribe kind l }
  | .clear => .ok { x with bus := x.bus.clear }
  | .turn t => .ok (x.turn t)
  | .close => x.close
  | .raise fault => .error fault

def moves : List Move → Exchange → Except Fault Unit × Exchange
  | [], x => (.ok (), x)
  | move :: rest, x =>
    match x.move move with
    | .error fault => (.error fault, x)
    | .ok y => moves rest y

/-- The scope of a new emitter, which a fault leaves after its end only. -/
def block (x : Exchange) (ms : List Move) : Except Fault Unit × Exchange :=
  let (result, y) := moves ms x.enter
  (result, y.leave)

/-- The event that a move offers to a listener through the emitter at a position. -/
def offered (x : Exchange) (position : Nat) (name : String) : Move → List Offer
  | .emit e =>
    match x.emitters[position]? with
    | none => []
    | some m =>
      let c := channelOf m.channels name
      if m.closed = false ∧ x.bus.Hears e.kind name then [⟨e, c.isWaiting, c.buffer.length⟩] else []
  | _ => []

def offers (position : Nat) (name : String) : List Move → Exchange → List Offer
  | [], _ => []
  | move :: rest, x =>
    match x.move move with
    | .error _ => []
    | .ok y => x.offered position name move ++ offers position name rest y

structure Inside (position : Nat) (x : Exchange) (m : Emitter) : Prop where
  holds : x.Holds position m
  last : x.emitters.length = position + 1
  active : m.active = true
  awaited : m.awaited = false
  distinct : x.bus.Distinct

variable {x y : Exchange} {position : Nat} {m : Emitter} {name : String}

theorem Inside.of_keeps (h : Inside position x m) {m' : Emitter} (hkeeps : x.Keeps y)
    (hholds : y.Holds position m') (hactive : m'.active = m.active)
    (hawaited : m'.awaited = m.awaited) : Inside position y m' where
  holds := hholds
  last := hkeeps.emitters.trans h.last
  active := hactive.trans h.active
  awaited := hawaited.trans h.awaited
  distinct := by
    rw [hkeeps.bus]
    exact h.distinct

theorem offered_emit (h : x.emitters[position]? = some m) (e : Event) :
    x.offered position name (.emit e) = if m.closed = false ∧ x.bus.Hears e.kind name then
      [⟨e, (channelOf m.channels name).isWaiting, (channelOf m.channels name).buffer.length⟩]
        else [] := by
  rw [offered, h]

theorem Inside.current? (h : Inside position x m) : x.current? = some position := by
  have hlast : x.emitters.getLast? = some m := by
    rw [List.getLast?_eq_getElem?, h.last, Nat.add_sub_cancel, h.holds.emitter]
  have hemitters := (List.dropLast_append_getLast? m hlast).symm
  rw [current?_concat hemitters h.active, List.length_dropLast, h.last]
  rfl

theorem inside_enter (hready : x.ready = []) (hbus : x.bus.Distinct) :
    Inside x.emitters.length x.enter {} where
  holds := {
    emitter := List.getElem?_concat_length
    sound := {
      names := List.nodup_nil
      channels := fun c hc => by cases hc
      tasks := fun t ht => by cases hready ▸ ht
      awake := fun i c hc => by cases hc
      held := by rw [show x.enter.ready = [] from hready]; rfl
      callers := by rw [show x.enter.ready = [] from hready]; exact Nat.zero_le 1
      caller := fun ht => by cases hready ▸ ht } }
  last := List.length_append
  active := rfl
  awaited := rfl
  distinct := hbus

/-- What a move makes of an exchange within the scope of its emitter. -/
structure Moved (position : Nat) (x : Exchange) (m : Emitter) (move : Move) (y : Exchange)
    (m' : Emitter) : Prop where
  inside : Inside position y m'
  bus : y.bus = x.bus.after move
  closed : m'.closed = (m.closed || move.closes)
  account : ∀ name, y.account m' name =
    x.account m name ++ ((x.offered position name move).filter (Offer.taken x.bus.capacity)).map
      Offer.event

theorem Inside.resubscribe (h : Inside position x m) {move : Move} (hopen : move.closes = false)
    (hsilent : ∀ name, x.offered position name move = []) :
    Moved position x m move { x with bus := x.bus.after move } m where
  inside := ⟨⟨h.holds.emitter, h.holds.sound⟩, h.last, h.active, h.awaited, h.distinct.after move⟩
  bus := rfl
  closed := by rw [hopen, Bool.or_false]
  account name := by
    rw [hsilent]
    exact (List.append_nil _).symm

theorem Inside.turn (h : Inside position x m) (t : Task) :
    ∃ m', Moved position x m (.turn t) (x.turn t) m' := by
  unfold Exchange.turn
  split
  · next ht =>
    -- The order of the queue is of no importance, so that whoever takes the step may as well be the
    -- first.
    have hcaller : t ≠ .caller := by
      rintro rfl
      exact h.holds.sound.caller_not_mem h.awaited ht
    have hperm := List.perm_cons_erase ht
    have hfirst : ({ x with ready := t :: x.ready.erase t } : Exchange).Holds position m :=
      ⟨h.holds.emitter, h.holds.sound.perm hperm⟩
    obtain ⟨m', htook⟩ := hfirst.take hcaller
    exact ⟨m', h.of_keeps ⟨htook.keeps.bus, htook.keeps.emitters⟩ htook.holds
      htook.active htook.awaited, htook.keeps.bus, htook.closed.trans (Bool.or_false _).symm,
      fun name => (htook.account name).trans (List.append_nil _).symm⟩
  · exact ⟨m, h, rfl, (Bool.or_false _).symm, fun name => (List.append_nil _).symm⟩

theorem Inside.emit (h : Inside position x m) {e : Event} (hemit : x.emit e = .ok y) :
    ∃ m', Moved position x m (.emit e) y m' := by
  have hemit : x.emitAt position e = .ok y := by
    rw [← hemit, Exchange.emit, h.current?]
  have hkeeps := keeps_emitAt hemit
  obtain ⟨m', hemitted⟩ := h.holds.emitAt h.awaited h.distinct hemit
  refine ⟨m', h.of_keeps hkeeps hemitted.holds hemitted.active hemitted.awaited, hkeeps.bus,
    hemitted.closed.trans (Bool.or_false _).symm, fun name => ?_⟩
  rw [hemitted.account name, offered_emit h.holds.emitter]
  by_cases hheard : m.closed = false ∧ x.bus.Hears e.kind name
  · rw [if_pos hheard, List.filter_singleton, Offer.taken_eq]
    cases haccepts : (channelOf m.channels name).accepts x.bus.capacity with
    | true =>
      rw [if_pos ⟨hheard.1, hheard.2, rfl⟩]
      rfl
    | false =>
      rw [if_neg fun hall => Bool.false_ne_true hall.2.2]
      rfl
  · rw [if_neg hheard, if_neg fun hall => hheard ⟨hall.1, hall.2.1⟩]
    rfl

theorem Inside.close (h : Inside position x m) (hclose : x.close = .ok y) :
    ∃ m', Moved position x m .close y m' := by
  rw [Exchange.close, h.current?] at hclose
  cases hclose
  obtain ⟨hclosed, haccount⟩ := h.holds.closeAt
  have hkeeps := keeps_closeAt x position
  exact ⟨_, h.of_keeps hkeeps hclosed rfl rfl, hkeeps.bus, (Bool.or_true _).symm,
    fun name => (haccount name).trans (List.append_nil _).symm⟩

theorem Inside.move (h : Inside position x m) {move : Move} (hmove : x.move move = .ok y) :
    ∃ m', Moved position x m move y m' := by
  cases move with
  | emit e => exact h.emit hmove
  | subscribe kind l =>
    cases hmove
    exact ⟨m, h.resubscribe rfl fun _ => rfl⟩
  | unsubscribe kind l =>
    cases hmove
    exact ⟨m, h.resubscribe rfl fun _ => rfl⟩
  | clear =>
    cases hmove
    exact ⟨m, h.resubscribe rfl fun _ => rfl⟩
  | turn t =>
    cases hmove
    exact h.turn t
  | close => exact h.close hmove
  | raise fault => cases hmove

/-- The moves of a block keep together what a listener has received and what is on its way to it:
every event that it takes is added to that, in order. -/
theorem Inside.account_moves (h : Inside position x m) (ms : List Move) :
    ∃ m', Inside position (moves ms x).2 m' ∧ ∀ name, (moves ms x).2.account m' name =
      x.account m name ++
      ((offers position name ms x).filter (Offer.taken x.bus.capacity)).map Offer.event := by
  induction ms generalizing x m with
  | nil => exact ⟨m, h, fun name => (List.append_nil _).symm⟩
  | cons move rest ih =>
    unfold Exchange.moves offers
    cases hmove : x.move move with
    | error fault =>
      -- The block ends here, and so do the offers.
      exact ⟨m, h, fun name => (List.append_nil _).symm⟩
    | ok y =>
      obtain ⟨m₁, hmoved⟩ := h.move hmove
      obtain ⟨m', hinside, haccount⟩ := ih hmoved.inside
      refine ⟨m', hinside, fun name => ?_⟩
      dsimp only
      rw [haccount, hmoved.account, hmoved.bus, x.bus.capacity_after,
        List.filter_append, List.map_append, List.append_assoc]

/-- Where the capacity means something, no move fails but one that raises a fault. -/
theorem Inside.move_accepted (h : Inside position x m) (hcapacity : x.bus.capacity.check = .ok ())
    {move : Move} (hmove : ∀ fault, move ≠ .raise fault) : ∃ y, x.move move = .ok y := by
  cases move with
  | emit e =>
    obtain ⟨y, hy⟩ := emitAt_accepted h.holds.emitter hcapacity e
    refine ⟨y, ?_⟩
    rw [Exchange.move, Exchange.emit, h.current?]
    exact hy
  | close =>
    refine ⟨x.closeAt position, ?_⟩
    rw [Exchange.move, Exchange.close, h.current?]
  | raise fault => exact absurd rfl (hmove fault)
  | _ => exact ⟨_, rfl⟩

/-- What is due is offered by a move, or is due after it. -/
theorem Moved.due_cons {move : Move} {m' : Emitter} (h : Moved position x m move y m')
    (hx : Inside position x m) (hmove : ∀ fault, move ≠ .raise fault) (name : String)
    (rest : List Move) :
    ((x.offered position name move).map Offer.event ++ if m'.closed then []
      else y.bus.due name rest) =
      if m.closed then [] else x.bus.due name (move :: rest) := by
  have hopen (heq : move.closes = false) : m'.closed = m.closed := by
    rw [h.closed, heq, Bool.or_false]
  rw [h.bus]
  cases move with
  | emit e =>
    rw [hopen rfl, offered_emit hx.holds.emitter]
    cases hclosed : m.closed with
    | true => simp
    | false =>
      rw [if_neg Bool.false_ne_true, if_neg Bool.false_ne_true, Bus.due]
      by_cases hheard : x.bus.Hears e.kind name
      · rw [if_pos ⟨rfl, hheard⟩, if_pos hheard]
        rfl
      · rw [if_neg fun hboth => hheard hboth.2, if_neg hheard]
        rfl
  | raise fault => exact absurd rfl (hmove fault)
  | close =>
    rw [h.closed, Move.closes, Bool.or_true, if_pos rfl]
    exact (ite_self _).symm
  | _ =>
    rw [hopen rfl]
    rfl

/-- Where the capacity means something, a block goes on until it raises a fault, and every event
that is due for a listener is offered to it. -/
theorem Inside.offers_eq_due (h : Inside position x m) (hcapacity : x.bus.capacity.check = .ok ())
    (ms : List Move) :
    (moves ms x).1 = Move.raised ms ∧ ∀ name,
      (offers position name ms x).map Offer.event = if m.closed then [] else x.bus.due name ms := by
  induction ms generalizing x m with
  | nil => exact ⟨rfl, fun name => (ite_self _).symm⟩
  | cons move rest ih =>
    by_cases hraise : ∃ fault, move = .raise fault
    · obtain ⟨fault, rfl⟩ := hraise
      exact ⟨rfl, fun name => (ite_self _).symm⟩
    · have hmove (fault : Fault) : move ≠ .raise fault := fun heq => hraise ⟨fault, heq⟩
      obtain ⟨y, hy⟩ := h.move_accepted hcapacity hmove
      obtain ⟨m', hmoved⟩ := h.move hy
      have hsame : y.bus.capacity = x.bus.capacity := by rw [hmoved.bus, x.bus.capacity_after]
      obtain ⟨hresult, hoffers⟩ := ih hmoved.inside (hsame ▸ hcapacity)
      have hraised : Move.raised (move :: rest) = Move.raised rest := by
        cases move with
        | raise fault => exact absurd rfl (hmove fault)
        | _ => rfl
      unfold Exchange.moves offers
      rw [hy]
      refine ⟨hresult.trans hraised.symm, fun name => ?_⟩
      dsimp only
      rw [List.map_append, hoffers, hmoved.due_cons h hmove]

structure Delivers (x : Exchange) (ms : List Move) (name : String) : Prop where
  /-- It receives the events that it takes, in the order of their emission. -/
  received : (x.block ms).2.receivedBy name = x.receivedBy name ++
    ((offers x.emitters.length name ms x.enter).filter (Offer.taken x.bus.capacity)).map Offer.event
  /-- Some of them it has received already with the last move of the block. -/
  inside : (moves ms x.enter).2.receivedBy name <+: (x.block ms).2.receivedBy name
  /-- It is offered what was emitted while it was subscribed. -/
  offered : x.bus.capacity.check = .ok () →
    (offers x.emitters.length name ms x.enter).map Offer.event = x.bus.due name ms
  /-- It misses an event only when its buffer is full. -/
  missed : ∀ n, x.bus.capacity = .limit n →
    ∀ o ∈ offers x.emitters.length name ms x.enter, o.taken x.bus.capacity = false → n ≤ o.buffered
  subsequence : x.bus.capacity.check = .ok () → ∃ handled,
    (x.block ms).2.receivedBy name = x.receivedBy name ++ handled ∧
    handled.Sublist (x.bus.due name ms)
  /-- Without a limit it misses nothing. -/
  unlimited : x.bus.capacity = .unlimited → (x.block ms).2.receivedBy name =
    x.receivedBy name ++ x.bus.due name ms

/-- At the end of a block every listener has received what was emitted for it, whichever steps were
taken in the meantime and whether or not the block ends with a fault, which goes out of it only
then. What is emitted afterwards reaches nobody. -/
theorem block_delivers (hready : x.ready = []) (hbus : x.bus.Distinct) (ms : List Move) :
    (∀ name, Delivers x ms name) ∧ (x.block ms).1 = (moves ms x.enter).1 ∧
      (x.bus.capacity.check = .ok () → (x.block ms).1 = Move.raised ms) ∧
      (∃ m, (x.block ms).2.Drained x.emitters.length m) ∧
      ∀ e, ∃ log, (x.block ms).2.emitAt x.emitters.length e = .ok { (x.block ms).2 with log } := by
  have hentered := inside_enter hready hbus
  obtain ⟨m, hinside, haccount⟩ := hentered.account_moves ms
  have hleave : (x.block ms).2 = (moves ms x.enter).2.leaveAt x.emitters.length := by
    unfold block leave
    dsimp only
    rw [hinside.current?]
  obtain ⟨m', hdrained, hreceived⟩ := hinside.holds.leaveAt hinside.awaited
  rw [← hleave] at hdrained
  -- Nothing is on its way at first, and nothing at the end: both accounts are what has been
  -- received.
  have htaken (name : String) : (x.block ms).2.receivedBy name = x.receivedBy name ++
      ((offers x.emitters.length name ms x.enter).filter (Offer.taken x.bus.capacity)).map
        Offer.event := by
    have hstart : x.enter.account {} name = x.receivedBy name := List.append_nil _
    rw [hleave, hreceived, haccount, hstart]
    rfl
  have hdue (hcapacity : x.bus.capacity.check = .ok ()) (name : String) :
      (offers x.emitters.length name ms x.enter).map Offer.event = x.bus.due name ms :=
    (hentered.offers_eq_due hcapacity ms).2 name
  refine ⟨fun name => ⟨htaken name, ?_, fun hcapacity => hdue hcapacity name, ?_, ?_, ?_⟩,
    rfl, ?_, ⟨m', hdrained⟩, ?_⟩
  · rw [hleave, hreceived]
    exact List.prefix_append _ _
  · intro n hlimit o _ hmissed
    exact Offer.full (hlimit ▸ hmissed)
  · intro hcapacity
    refine ⟨_, htaken name, ?_⟩
    rw [← hdue hcapacity name]
    exact List.filter_sublist.map _
  · intro hunlimited
    have hcapacity : x.bus.capacity.check = .ok () := by
      rw [hunlimited]
      rfl
    have hall : (offers x.emitters.length name ms x.enter).filter (Offer.taken x.bus.capacity) =
        offers x.emitters.length name ms x.enter := by
      rw [hunlimited]
      exact List.filter_eq_self.2 fun o _ => Bool.or_true _
    rw [htaken, hall, hdue hcapacity]
  · intro hcapacity
    exact (hentered.offers_eq_due hcapacity ms).1
  · intro e
    exact ⟨_, emitAt_of_closed hdrained.holds.emitter hdrained.closed e⟩

/-- A listener on two kinds, subscribed twice to one of them, with a buffer for one event: the
second event finds it full, and the last one comes after the end of the subscription. -/
theorem tap_gets_its_events :
    let tap : Listener := { name := "tap", failOn := Failing.ofSteps ["a"] }
    let bus :=
      ((Bus.subscribe { capacity := .limit 1 } .stepStart tap).subscribe .stepStart tap).subscribe
      .stepComplete tap
    let x : Exchange := { bus }
    let said (kind : EventKind) (id : String) : Move := .emit { kind, stepId := some id }
    let turn : Move := .turn (.consumer 0 0)
    let fault : Fault := .unknownName "gone"
    let ms :=
      [said .stepStart "a", said .stepComplete "b", turn, turn, said .stepComplete "c", turn,
      .unsubscribe .stepComplete tap, said .stepComplete "d", .raise fault]
    let out := x.block ms
    out.1 = .error fault ∧ (x.bus.due "tap" ms).map Event.stepId = [some "a", some "b", some "c"] ∧
      (out.2.receivedBy "tap").map Event.stepId = [some "a", some "c"] := by
  intro tap bus x said turn fault ms out
  have hbus : bus.Distinct :=
    (((Bus.distinct_of_empty rfl).subscribe .stepStart tap).subscribe .stepStart tap).subscribe
      .stepComplete tap
  obtain ⟨hdelivers, -, hraised, -⟩ := block_delivers (x := x) rfl hbus ms
  have htaken :
      (((offers x.emitters.length "tap" ms x.enter).filter (Offer.taken x.bus.capacity)).map
        Offer.event).map
      Event.stepId = [some "a", some "c"] := by decide +kernel
  refine ⟨hraised rfl, by decide +kernel, ?_⟩
  rw [(hdelivers "tap").received, List.map_append, htaken]
  rfl

/-- Not every block delivers so. Where the capacity of the bus means nothing, an event is missed
though nothing waits in any buffer. And two listeners that count as equal have a channel each: what
is emitted for the first one in between is received after what was emitted for the second one. -/
theorem not_every_block_delivers :
    (let bus := Bus.subscribe { capacity := .fractional } .stepStart { name := "tap" }
      let ms : List Move := [.emit { kind := .stepStart }]
      (Bus.due bus "tap" ms).length = 1 ∧ ((block { bus } ms).2.receivedBy "tap").length = 0 ∧
        ∀ o ∈ offers 0 "tap" ms (enter { bus }), o.buffered = 0) ∧
    let first : Listener := { name := "first", label := "seen" }
    let second : Listener := { name := "second", label := "seen" }
    let bus := (Bus.subscribe {} .stepStart first).subscribe .stepError second
    let said (kind : EventKind) (id : String) : Move := .emit { kind, stepId := some id }
    let ms := [said .stepStart "a", said .stepStart "b", said .stepError "c"]
    (first == second) = true ∧
      (block { bus } ms).2.received.map (fun r => r.2.stepId) = [some "a", some "c", some "b"] := by
  refine ⟨⟨by decide +kernel, by decide +kernel, by decide +kernel⟩, by
    decide +kernel, by decide +kernel⟩

end Exchange
end StepFlow
