import StepFlow.Proofs.Event.Drain

/-!
# Emitters that go on taking events

Many emitters can be open at once on one bus. Whether the events of one are refused depends on
nothing but the bus, and whatever happens through the others, an emitter that takes events goes on
taking them until its own scope is left.
-/
namespace StepFlow

/-- Refuses events of a kind that is listened to if the capacity of the bus means nothing. -/
def Bus.admit (b : Bus) (kind : EventKind) : Except Fault Unit :=
  if b.listeners kind = [] then .ok () else b.capacity.check

theorem modifyAt_eq_modify {α : Type} (f : α → α) (n : Nat) (xs : List α) :
    modifyAt f n xs = xs.modify n f := by
  induction xs generalizing n with
  | nil => cases n <;> rfl
  | cons x xs ih =>
    cases n with
    | zero => rfl
    | succ n => rw [modifyAt, ih, List.modify_succ_cons]

/-- An emitter is open, and whether it takes an event depends on the bus only. -/
structure Emitter.Serves (m : Emitter) (capacity : Capacity) : Prop where
  opened : m.closed = false
  channels : capacity.check = .ok () ∨ m.channels = []

namespace Exchange

/-- The emitter at a position takes events. -/
def Speaks (x : Exchange) (position : Nat) : Prop :=
  ∃ m, x.emitters[position]? = some m ∧ m.Serves x.bus.capacity

/-- The current emitter takes events. -/
def Voiced (x : Exchange) : Prop := ∃ position, x.current? = some position ∧ x.Speaks position

/-- A later exchange has the same bus and the same open scopes, and no emitter is lost that takes
events. -/
structure Retains (x y : Exchange) : Prop where
  bus : y.bus = x.bus
  active : y.emitters.map Emitter.active = x.emitters.map Emitter.active
  speaks : ∀ position, x.Speaks position → y.Speaks position

/-- The exchange in which whoever uses the emitter at a position is the one to act. -/
def focus (x : Exchange) (position : Nat) : Exchange :=
  { x with emitters := x.emitters.mapIdx fun i m => { m with active := i == position } }

variable {x y z : Exchange} {position other : Nat}

theorem Speaks.lt (h : x.Speaks position) : position < x.emitters.length := by
  obtain ⟨m, hm, -⟩ := h
  exact (List.getElem?_eq_some_iff.1 hm).1

theorem Speaks.of_emitters (hbus : y.bus = x.bus) (hemitters : y.emitters = x.emitters)
    (h : x.Speaks position) :
    y.Speaks position := by
  unfold Speaks
  rw [hbus, hemitters]
  exact h

theorem getElem?_emitters_modifyEmitter (x : Exchange) (position other : Nat)
    (f : Emitter → Emitter) :
    (x.modifyEmitter position f).emitters[other]? =
      (x.emitters[other]?).map fun m => if position = other then f m else m := by
  rw [modifyEmitter, modifyAt_eq_modify, List.getElem?_modify]
  rfl

theorem Speaks.modifyEmitter {f : Emitter → Emitter} (h : x.Speaks other)
    (hf : ∀ m, x.emitters[position]? = some m → m.Serves x.bus.capacity →
      (f m).Serves x.bus.capacity) :
    (x.modifyEmitter position f).Speaks other := by
  obtain ⟨m, hm, hserves⟩ := h
  refine ⟨_, by rw [getElem?_emitters_modifyEmitter, hm, Option.map_some], ?_⟩
  split
  · next heq => exact hf m (heq ▸ hm) hserves
  · exact hserves

theorem Speaks.modifyEmitter_of_ne {f : Emitter → Emitter} (h : x.Speaks other)
    (hne : position ≠ other) :
    (x.modifyEmitter position f).Speaks other := by
  obtain ⟨m, hm, hserves⟩ := h
  refine ⟨m, ?_, hserves⟩
  rw [getElem?_emitters_modifyEmitter, hm, Option.map_some, if_neg hne]

namespace Retains

theorem refl (x : Exchange) : x.Retains x := ⟨rfl, rfl, fun _ h => h⟩

theorem trans (h : x.Retains y) (g : y.Retains z) : x.Retains z where
  bus := g.bus.trans h.bus
  active := g.active.trans h.active
  speaks position hspeaks := g.speaks position (h.speaks position hspeaks)

theorem of_emitters (hbus : y.bus = x.bus) (hemitters : y.emitters = x.emitters) : x.Retains y where
  bus := hbus
  active := by rw [hemitters]
  speaks _ h := h.of_emitters hbus hemitters

theorem current? (h : x.Retains y) : y.current? = x.current? := by
  have hfound (p : Bool → Bool) (x : Exchange) :
      x.emitters.reverse.findIdx? (fun m => p m.active) =
      (x.emitters.map Emitter.active).reverse.findIdx? p := by
    rw [← List.map_reverse, List.findIdx?_map]
    rfl
  have hlength : y.emitters.length = x.emitters.length := by
    rw [← List.length_map Emitter.active, h.active, List.length_map]
  have hactive :=
    (hfound id y).trans ((congrArg (List.findIdx? id ∘ List.reverse) h.active).trans
      (hfound id x).symm)
  have hany := (hfound (fun _ => true) y).trans
    ((congrArg (List.findIdx? (fun _ => true) ∘ List.reverse) h.active).trans
      (hfound (fun _ => true) x).symm)
  unfold Exchange.current?
  dsimp only [id] at hactive hany ⊢
  rw [hlength, hany]
  exact congrArg (fun found => Option.map _ found <|> _) hactive

theorem voiced (h : x.Retains y) (hx : x.Voiced) : y.Voiced := by
  obtain ⟨position, hcurrent, hspeaks⟩ := hx
  exact ⟨position, h.current?.trans hcurrent, h.speaks position hspeaks⟩

end Retains

theorem retains_modifyEmitter {f : Emitter → Emitter} (hactive : ∀ m, (f m).active = m.active)
    (hf : ∀ m, x.emitters[position]? = some m → m.Serves x.bus.capacity →
      (f m).Serves x.bus.capacity) :
    x.Retains (x.modifyEmitter position f) where
  bus := rfl
  active := by
    refine List.ext_getElem? fun i => ?_
    rw [List.getElem?_map, List.getElem?_map, getElem?_emitters_modifyEmitter, Option.map_map]
    congr 1
    funext m
    dsimp only [Function.comp_apply]
    split
    · exact hactive m
    · rfl
  speaks _ h := h.modifyEmitter hf

theorem retains_handle (x : Exchange) (l : Listener) (e : Event) : x.Retains (x.handle l e) :=
  .of_emitters (keeps_handle x l e).bus (keeps_others_handle x l e).1

theorem retains_stepConsumer (x : Exchange) (position channel : Nat) :
    x.Retains (x.stepConsumer position channel) := by
  unfold stepConsumer
  split
  · exact .refl x
  · next listener c handled standing _ =>
    have hstepped : x.Retains (x.modifyEmitter position fun m =>
        { m with channels := modifyAt (fun _ => c) channel m.channels }) := by
      refine retains_modifyEmitter (fun _ => rfl) fun m _ hserves => ⟨hserves.opened, ?_⟩
      rcases hserves.channels with hcapacity | hnone
      · exact .inl hcapacity
      · exact .inr (by rw [hnone, modifyAt])
    have hhandled := hstepped.trans (z := handled.elim _ (Exchange.handle _ listener)) (by
      cases handled with
      | none => exact .refl _
      | some e => exact retains_handle _ _ _)
    cases standing with
    | ready => exact hhandled.trans (.of_emitters rfl rfl)
    | asleep => exact hhandled
    | «over» => exact hhandled.trans (.of_emitters rfl rfl)

theorem retains_release (x : Exchange) (position : Nat) : x.Retains (x.release position) := by
  unfold release
  split
  · exact .refl x
  · have hreleased : x.Retains (x.modifyEmitter position fun m => { m with held := m.held - 1 }) :=
      retains_modifyEmitter (fun _ => rfl) fun _ _ hserves => ⟨hserves.opened, hserves.channels⟩
    dsimp only
    split
    · exact hreleased.trans (.of_emitters rfl rfl)
    · exact hreleased

theorem retains_take (x : Exchange) (t : Task) (rest : List Task) : x.Retains (x.take t rest) := by
  have hrest : x.Retains { x with ready := rest } := .of_emitters rfl rfl
  cases t with
  | consumer position channel => exact hrest.trans (retains_stepConsumer _ position channel)
  | release position => exact hrest.trans (retains_release _ position)
  | caller => exact hrest

theorem retains_proceed (fuel : Nat) (x : Exchange) : x.Retains (proceed fuel x) := by
  induction fuel generalizing x with
  | zero => exact .refl x
  | succ fuel ih =>
    cases hready : x.ready with
    | nil =>
      rw [proceed, hready]
      exact .refl x
    | cons t rest =>
      by_cases hcaller : t = .caller
      · rw [hcaller] at hready
        rw [proceed, hready]
        exact .of_emitters rfl rfl
      · rw [proceed_of_ready hready hcaller]
        exact (retains_take x t rest).trans (ih _)

theorem retains_settle (x : Exchange) : x.Retains x.settle := retains_proceed _ x

theorem retains_pass (x : Exchange) : x.Retains x.pass :=
  (Retains.of_emitters rfl rfl : x.Retains (x.enqueue [.caller])).trans (retains_proceed _ _)

theorem retains_publish (x : Exchange) (e : Event) : x.Retains (x.publish e) := by
  unfold publish
  generalize x.bus.listeners e.kind = listeners
  induction listeners generalizing x with
  | nil => exact .refl x
  | cons l rest ih =>
    have hturn : x.Retains (if l.style = .pausing then x.pass else x) := by
      split
      · exact retains_pass x
      · exact .refl x
    exact (hturn.trans (retains_handle _ l e)).trans (ih _)

/-- Whether an emitter takes an event is decided by the bus. -/
theorem emitAt_of_speaks (h : x.Speaks position) (e : Event) :
    match x.bus.admit e.kind with
    | .error fault => x.emitAt position e = .error fault
    | .ok () => ∃ y, x.emitAt position e = .ok y ∧ x.Retains y := by
  obtain ⟨m, hm, hopened, hchannels⟩ := h
  have hserved : (if (x.bus.listeners e.kind).all fun l => m.channels.any fun c =>
    c.listener.name == l.name then .ok ()
      else x.bus.capacity.check) = x.bus.admit e.kind := by
    unfold Bus.admit
    rcases hchannels with hcapacity | hnone
    · rw [hcapacity, ite_self, ite_self]
    · rw [hnone]
      cases x.bus.listeners e.kind <;> rfl
  unfold emitAt
  rw [hm]
  dsimp only
  rw [if_neg (Bool.eq_false_iff.1 hopened), hserved]
  cases hadmitted : x.bus.admit e.kind with
  | error fault => rfl
  | ok _ =>
    generalize hsent : (x.bus.listeners e.kind).foldl (Delivery.send x.bus.capacity e)
      { channels := m.channels } = d
    have hkept : x.Retains (x.modifyEmitter position fun m' =>
        { m' with channels := d.channels, held := m'.held + (d.channels.length -
          m.channels.length) }) := by
      refine retains_modifyEmitter (fun _ => rfl) fun m' hm' hserves => ⟨hserves.opened, ?_⟩
      obtain rfl : m = m' := Option.some.inj (hm.symm.trans hm')
      rcases hserves.channels with hcapacity | hnone
      · exact .inl hcapacity
      · -- No channel is opened: where there are listeners the capacity means something after all.
        unfold Bus.admit at hadmitted
        split at hadmitted
        · next hlisteners =>
          rw [hlisteners, hnone] at hsent
          exact .inr (hsent ▸ rfl)
        · exact .inl hadmitted
    exact ⟨_, rfl, hkept.trans (.of_emitters rfl rfl)⟩

theorem emit_of_voiced (h : x.Voiced) (e : Event) :
    match x.bus.admit e.kind with
    | .error fault => x.emit e = .error fault
    | .ok () => ∃ y, x.emit e = .ok y ∧ x.Retains y := by
  obtain ⟨position, hcurrent, hspeaks⟩ := h
  have hemit : x.emit e = x.emitAt position e := by rw [emit, hcurrent]
  rw [hemit]
  exact emitAt_of_speaks hspeaks e

theorem Speaks.focus (h : x.Speaks other) (position : Nat) : (x.focus position).Speaks other := by
  obtain ⟨m, hm, hserves⟩ := h
  refine ⟨{ m with active := other == position }, ?_, ⟨hserves.opened, hserves.channels⟩⟩
  rw [Exchange.focus, List.getElem?_mapIdx, hm, Option.map_some]

theorem current?_focus (hlt : position < x.emitters.length) :
    (x.focus position).current? = some position := by
  have hlength : (x.focus position).emitters.length = x.emitters.length := List.length_mapIdx
  have hfound : (x.focus position).emitters.reverse.findIdx? Emitter.active =
      some (x.emitters.length - 1 - position) := by
    rw [List.findIdx?_eq_some_iff_getElem]
    refine ⟨by rw [List.length_reverse, hlength]; omega, ?_, fun j hj => ?_⟩
    all_goals
      simp only [Exchange.focus, List.getElem_reverse, List.getElem_mapIdx,
        List.length_mapIdx, beq_iff_eq]
      omega
  unfold Exchange.current?
  dsimp only
  rw [hfound, hlength, Option.map_some]
  exact congrArg some (by omega)

theorem Speaks.enter (h : x.Speaks other) : x.enter.Speaks other := by
  have hlt := h.lt
  obtain ⟨m, hm, hserves⟩ := h
  refine ⟨m, ?_, hserves⟩
  rw [Exchange.enter, List.getElem?_append_left hlt, hm]

theorem speaks_enter (x : Exchange) : x.enter.Speaks x.emitters.length :=
  ⟨{}, List.getElem?_concat_length, rfl, .inr rfl⟩

theorem voiced_enter (x : Exchange) : x.enter.Voiced :=
  ⟨x.emitters.length, current?_concat rfl rfl, speaks_enter x⟩

theorem retains_awaitAt (x : Exchange) (position : Nat) : x.Retains (x.awaitAt position) := by
  unfold awaitAt
  split
  · have hawaited : x.Retains (x.modifyEmitter position fun m => { m with awaited := true }) :=
      retains_modifyEmitter (fun _ => rfl) fun _ _ hserves => ⟨hserves.opened, hserves.channels⟩
    exact hawaited.trans (retains_proceed _ _)
  · exact retains_pass x

theorem Speaks.leaveAt (h : x.Speaks other) (hne : position ≠ other) :
    (x.leaveAt position).Speaks other := by
  have hclosed : (x.closeAt position).Speaks other := by
    unfold closeAt
    split
    · exact h
    · split
      · exact h
      · exact (h.modifyEmitter_of_ne hne).of_emitters rfl rfl
  exact ((retains_awaitAt _ position).speaks other hclosed).modifyEmitter_of_ne hne

theorem bus_leaveAt (x : Exchange) (position : Nat) : (x.leaveAt position).bus = x.bus :=
  (retains_awaitAt (x.closeAt position) position).bus.trans (keeps_closeAt x position).bus

theorem bus_leave (x : Exchange) : x.leave.bus = x.bus := by
  unfold leave
  split
  · exact bus_leaveAt x _
  · rfl

end Exchange
end StepFlow
