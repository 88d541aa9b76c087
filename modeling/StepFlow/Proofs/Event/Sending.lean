import StepFlow.Proofs.Event.Drain
import StepFlow.Proofs.Table

/-!
# Sending events

An event that is emitted is offered to every listener of its kind, once. It takes its place behind
all that is on its way to a listener, unless the listener's buffer is full.
-/
namespace StepFlow

namespace Exchange.Delivery

/-- The position of the channel of a listener, which is the next one where none was opened. -/
def place (d : Delivery) (l : Listener) : Nat :=
  (d.channels.findIdx? fun c => c.listener.name == l.name).getD d.channels.length

def opened (d : Delivery) (l : Listener) : Delivery :=
  if d.place l < d.channels.length then d
  else { d with channels := d.channels ++ [{ listener := l }], woken := d.woken ++ [d.place l] }

def emitter (d : Delivery) (m : Emitter) : Emitter :=
  { m with channels := d.channels, held := m.held + (d.channels.length - m.channels.length) }

structure Sound (d : Delivery) (m : Emitter) (position : Nat) (ready : List Task) : Prop where
  grown : m.channels.length ≤ d.channels.length
  sound : (d.emitter m).Sound position (ready ++ d.woken.map (.consumer position))

variable {d : Delivery} {capacity : Capacity} {e : Event} {l : Listener} {m : Emitter}
  {position : Nat} {ready : List Task}

theorem sound_start (h : m.Sound position ready) :
    Sound { channels := m.channels } m position ready where
  grown := Nat.le_refl _
  sound := by
    have hsame : emitter { channels := m.channels } m = m := by
      unfold emitter
      rw [Nat.sub_self]
      rfl
    rw [hsame, List.map_nil, List.append_nil]
    exact h

/-- The channel that a listener has, or gets: nothing is on its way in a new one. -/
structure Opened (d : Delivery) (l : Listener) (m : Emitter) (position : Nat) (ready : List Task)
    (c : Channel) :
    Prop where
  sound : (d.opened l).Sound m position ready
  channel : (d.opened l).channels[d.place l]? = some c
  name : c.listener.name = l.name
  others : ∀ name, l.name ≠ name → channelOf (d.opened l).channels name = channelOf d.channels name
  pending : c.pending = (channelOf d.channels l.name).pending
  accepts : ∀ capacity, c.accepts capacity = (channelOf d.channels l.name).accepts capacity

theorem Sound.opened_of_some (h : d.Sound m position ready) {i : Nat}
    (hindex : (d.channels.findIdx? fun c => c.listener.name == l.name) = some i) :
    ∃ c, d.Opened l m position ready c := by
  obtain ⟨hi, hname, -⟩ := List.findIdx?_eq_some_iff_getElem.1 hindex
  have hplace : d.place l = i := by rw [place, hindex, Option.getD_some]
  have hopened : d.opened l = d := by rw [Delivery.opened, if_pos (hplace ▸ hi)]
  have hc : d.channels[i]? = some d.channels[i] := List.getElem?_eq_getElem hi
  have hname : d.channels[i].listener.name = l.name := beq_iff_eq.1 hname
  have hfound : channelOf d.channels l.name = d.channels[i] :=
    hname ▸ channelOf_of_getElem? h.sound.names hc
  refine ⟨d.channels[i], ?_, ?_, hname, fun _ _ => by rw [hopened], by rw [hfound],
    fun _ => by rw [hfound]⟩
  · rw [hopened]
    exact h
  · rw [hopened, hplace]
    exact hc

theorem Sound.opened_of_none (h : d.Sound m position ready) (hawaited : m.awaited = false)
    (hindex : (d.channels.findIdx? fun c => c.listener.name == l.name) = none) :
    d.Opened l m position ready { listener := l } := by
  have hplace : d.place l = d.channels.length := by rw [place, hindex, Option.getD_none]
  have hopened : d.opened l = { d with
      channels := d.channels ++ [{ listener := l }]
      woken := d.woken ++ [d.channels.length] } := by
    rw [Delivery.opened, hplace, if_neg (Nat.lt_irrefl _)]
  have habsent (c : Channel) (hc : c ∈ d.channels) : (c.listener.name == l.name) = false :=
    List.findIdx?_eq_none_iff.1 hindex c hc
  have hnew : l.name ∉ d.channels.map fun c => c.listener.name := by
    intro hmem
    obtain ⟨c, hc, hname⟩ := List.mem_map.1 hmem
    exact beq_eq_false_iff_ne.1 (habsent c hc) hname
  have hfound : channelOf d.channels l.name = { listener := { name := l.name } } := by
    unfold channelOf
    rw [List.find?_eq_none.2 fun c hc => Bool.eq_false_iff.1 (habsent c hc)]
    rfl
  refine ⟨⟨?_, ?_⟩, ?_, rfl, ?_, by rw [hfound]; rfl, fun _ => by rw [hfound]; rfl⟩
  · rw [hopened, List.length_append]
    exact Nat.le_add_right_of_le h.grown
  · have hheld : m.held + (d.channels.length - m.channels.length) + 1 =
        m.held + ((d.channels ++ [({ listener := l } : Channel)]).length - m.channels.length) := by
      have := h.grown
      rw [List.length_append, List.length_singleton]
      omega
    have hstarted := h.sound.start hawaited hnew
    unfold emitter at hstarted ⊢
    rw [hopened, List.map_append, ← List.append_assoc, ← hheld]
    exact hstarted
  · rw [hopened, hplace, List.getElem?_concat_length]
  · intro name hname
    rw [hopened]
    exact channelOf_concat_of_ne hname

theorem Sound.opened (h : d.Sound m position ready) (hawaited : m.awaited = false) (l : Listener) :
    ∃ c, d.Opened l m position ready c := by
  cases hindex : d.channels.findIdx? fun c => c.listener.name == l.name with
  | some i => exact h.opened_of_some hindex
  | none => exact ⟨_, h.opened_of_none hawaited hindex⟩

theorem send_eq (d : Delivery) (capacity : Capacity) (e : Event) (l : Listener) :
    d.send capacity e l = match (d.opened l).channels[d.place l]?.bind fun c =>
      (c.offer? capacity e).map fun offered => (c.isWaiting, offered) with
    | some (wasWaiting, c) => { d.opened l with
        channels := modifyAt (fun _ => c) (d.place l) (d.opened l).channels
        woken := if wasWaiting then (d.opened l).woken ++ [d.place l] else (d.opened l).woken }
    | none => { d.opened l with log := (d.opened l).log ++
        [⟨"WARNING", "Listener buffer full, dropping " ++ e.kind.name ++
          " event for " ++ l.describe⟩] } := rfl

theorem send_of_none {c : Channel} (hc : (d.opened l).channels[d.place l]? = some c)
    (hoffer : c.offer? capacity e = none) :
    ∃ log, d.send capacity e l = { d.opened l with log } := by
  rw [send_eq, hc, Option.bind_some, hoffer]
  exact ⟨_, rfl⟩

/-- The channel of the listener takes the event, and its consumer is woken if it waits for one. -/
theorem send_of_some {c c' : Channel} (hc : (d.opened l).channels[d.place l]? = some c)
    (hoffer : c.offer? capacity e = some c') : d.send capacity e l = { d.opened l with
      channels := (d.opened l).channels.set (d.place l) c'
      woken := (d.opened l).woken ++ if c.isWaiting then [d.place l] else [] } := by
  rw [send_eq, hc, Option.bind_some, hoffer, Option.map_some]
  dsimp only
  rw [modifyAt_const]
  cases c.isWaiting with
  | true => rfl
  | false => rw [if_neg Bool.false_ne_true, if_neg Bool.false_ne_true, List.append_nil]

/-- What sending an event to a listener makes of a delivery. -/
structure Sent (d : Delivery) (capacity : Capacity) (e : Event) (l : Listener) (m : Emitter)
    (position : Nat) (ready : List Task) (d' : Delivery) : Prop where
  sound : d'.Sound m position ready
  others : ∀ name, l.name ≠ name → channelOf d'.channels name = channelOf d.channels name
  pending : (channelOf d'.channels l.name).pending = (channelOf d.channels l.name).pending ++
    if (channelOf d.channels l.name).accepts capacity then [e] else []

theorem Sound.send (h : d.Sound m position ready) (hawaited : m.awaited = false)
    (hopen : m.closed = false) (capacity : Capacity) (e : Event) (l : Listener) :
    d.Sent capacity e l m position ready (d.send capacity e l) := by
  obtain ⟨c, hopened⟩ := h.opened hawaited l
  have hchannel := hopened.channel
  obtain ⟨hgrown, hsound⟩ := hopened.sound
  cases haccepts : c.accepts capacity with
  | false =>
    obtain ⟨log, hsend⟩ := send_of_none hchannel (Channel.offer?_of_not_accepts haccepts)
    have hfound : channelOf (d.opened l).channels l.name = c :=
      hopened.name ▸ channelOf_of_getElem? hsound.names hchannel
    rw [hsend]
    refine ⟨⟨hgrown, hsound⟩, hopened.others, ?_⟩
    rw [← hopened.accepts, haccepts, if_neg Bool.false_ne_true, List.append_nil, ← hopened.pending]
    exact congrArg Channel.pending hfound
  | true =>
    have hc : c.Sound false := hopen ▸ hsound.sound_of_getElem? hchannel
    obtain ⟨c', hoffer, hoffered⟩ := Channel.offered (e := e) hc haccepts
    have hset (name : String) : channelOf ((d.opened l).channels.set (d.place l) c') name =
        if l.name = name then c' else channelOf (d.opened l).channels name := by
      rw [← hopened.name]
      exact channelOf_set hsound.names hchannel (congrArg Listener.name hoffered.listener) name
    have hkept := hsound.offer hopen hchannel hoffered
    rw [send_of_some hchannel hoffer]
    refine ⟨⟨?_, ?_⟩, ?_, ?_⟩
    · rw [List.length_set]
      exact hgrown
    · have hwoken : (if c.isWaiting then [d.place l] else []).map (Task.consumer position) =
          if c.isWaiting then [.consumer position (d.place l)] else [] := by
        cases c.isWaiting <;> rfl
      unfold emitter at hkept ⊢
      dsimp only at hkept ⊢
      rw [List.map_append, hwoken, List.length_set, ← List.append_assoc]
      exact hkept
    · intro name hne
      rw [hset, if_neg hne, hopened.others name hne]
    · rw [hset, if_pos rfl, hoffered.pending, hopened.pending, ← hopened.accepts, haccepts,
        if_pos rfl]

theorem Sound.sendAll (h : d.Sound m position ready) (hawaited : m.awaited = false)
    (hopen : m.closed = false) (capacity : Capacity) (e : Event) {listeners : List Listener}
    (hnames : (listeners.map Listener.name).Nodup) :
    let d' := listeners.foldl (Delivery.send capacity e) d
    d'.Sound m position ready ∧ ∀ name, (channelOf d'.channels name).pending =
      (channelOf d.channels name).pending ++
      if name ∈ listeners.map Listener.name ∧ (channelOf d.channels name).accepts capacity then [e]
      else [] := by
  induction listeners generalizing d with
  | nil => exact ⟨h, fun name => by simp⟩
  | cons l rest ih =>
    rw [List.map_cons, List.nodup_cons] at hnames
    have hsent := h.send hawaited hopen capacity e l
    obtain ⟨hsound, hpending⟩ := ih hsent.sound hnames.2
    refine ⟨hsound, fun name => ?_⟩
    rw [List.foldl_cons, hpending]
    simp only [List.map_cons, List.mem_cons]
    -- The names are distinct: whoever has got an offer is not among the rest.
    by_cases hname : l.name = name
    · subst hname
      rw [if_neg (fun hboth => hnames.1 hboth.1), List.append_nil, hsent.pending]
      simp
    · rw [hsent.others name hname]
      simp [Ne.symm hname]

end Exchange.Delivery

namespace Bus
variable {b : Bus}

def Distinct (b : Bus) : Prop := ∀ kind, ((b.listeners kind).map Listener.name).Nodup

theorem distinct_of_empty (hb : b.subscriptions = []) : b.Distinct := by
  intro kind
  unfold listeners
  rw [hb]
  exact List.nodup_nil

theorem Distinct.assign (h : b.Distinct) (kind : EventKind) {listeners : List Listener}
    (hnames : (listeners.map Listener.name).Nodup) :
    ({ b with subscriptions := StepFlow.assign kind listeners b.subscriptions } :
      Bus).Distinct := by
  intro other
  unfold Bus.listeners
  by_cases hother : other = kind
  · rw [hother, lookup_assign]
    exact hnames
  · rw [lookup_assign_of_ne hother]
    exact h other

theorem Distinct.subscribe (h : b.Distinct) (kind : EventKind) (l : Listener) :
    (b.subscribe kind l).Distinct := by
  refine h.assign kind ?_
  split
  · exact h kind
  · next hnew =>
    rw [List.map_append]
    refine List.nodup_append.2 ⟨h kind, List.nodup_singleton _, ?_⟩
    rintro name hname _ hl rfl
    obtain ⟨l', hl', hsame⟩ := List.mem_map.1 hname
    rw [List.map_singleton, List.mem_singleton] at hl
    have hname : (l.name == l'.name) = true := beq_iff_eq.2 (hl.symm.trans hsame.symm)
    have hequal : (l == l') = true := Bool.or_eq_true_iff.2 (.inl hname)
    exact hnew (List.contains_iff_exists_mem_beq.2 ⟨l', hl', hequal⟩)

theorem Distinct.unsubscribe (h : b.Distinct) (kind : EventKind) (l : Listener) :
    (b.unsubscribe kind l).Distinct := by
  unfold Bus.unsubscribe
  split
  · exact h.assign kind ((h kind).sublist (List.erase_sublist.map _))
  · exact h

end Bus

namespace Exchange
variable {x y : Exchange} {position : Nat} {m : Emitter} {e : Event}

/-- What an emission makes of an exchange and its emitter. -/
structure Emitted (position : Nat) (x : Exchange) (m : Emitter) (e : Event) (y : Exchange)
    (m' : Emitter) : Prop where
  holds : y.Holds position m'
  bus : y.bus = x.bus
  closed : m'.closed = m.closed
  awaited : m'.awaited = m.awaited
  active : m'.active = m.active
  account : ∀ name, y.account m' name = x.account m name ++
    if m.closed = false ∧ name ∈ (x.bus.listeners e.kind).map Listener.name ∧
      (channelOf m.channels name).accepts x.bus.capacity then [e] else []

theorem Holds.emitAt (h : x.Holds position m) (hawaited : m.awaited = false) (hbus : x.bus.Distinct)
    (hemit : x.emitAt position e = .ok y) : ∃ m', Emitted position x m e y m' := by
  unfold Exchange.emitAt at hemit
  rw [h.emitter] at hemit
  dsimp only at hemit
  split at hemit
  · next hclosed =>
    cases hemit
    refine ⟨m, ⟨h.emitter, h.sound⟩, rfl, rfl, rfl, rfl, fun name => ?_⟩
    rw [if_neg (fun hboth => by cases hclosed.symm.trans hboth.1), List.append_nil]
    rfl
  · next hopen =>
    have hopen : m.closed = false := Bool.eq_false_iff.2 hopen
    split at hemit
    · cases hemit
    · cases hemit
      obtain ⟨hsound, hpending⟩ :=
        (Delivery.sound_start h.sound).sendAll hawaited hopen x.bus.capacity e (hbus e.kind)
      generalize (x.bus.listeners e.kind).foldl (Delivery.send x.bus.capacity e)
        { channels := m.channels } = d at hsound hpending ⊢
      refine ⟨d.emitter m, ⟨getElem?_modifyAt h.emitter, hsound.sound⟩, rfl,
        rfl, rfl, rfl, fun name => ?_⟩
      unfold account
      rw [show (d.emitter m).channels = d.channels from rfl, hpending]
      simp only [hopen, true_and, ← List.append_assoc]
      rfl

theorem emitAt_of_closed (h : x.emitters[position]? = some m) (hclosed : m.closed = true)
    (e : Event) :
    x.emitAt position e = .ok (x.note "WARNING" ("Dropping " ++ e.kind.name ++
      " event: emitter closed")) := by
  unfold Exchange.emitAt
  rw [h]
  exact if_pos hclosed

end Exchange
end StepFlow
