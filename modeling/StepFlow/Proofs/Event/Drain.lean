import StepFlow.Proofs.Event.Emission
import StepFlow.Proofs.Event.Emitter

/-!
# Draining an emitter

Whoever is ready takes a step, in any order. What a listener has received and what is on its way to
it stay together the same list of events. When its emitter is closed, the steps come to an end, and
then every listener has received everything.
-/
namespace StepFlow

section
variable {α : Type} {f : α → α} {n : Nat} {a : α} {xs : List α}

theorem getElem?_modifyAt (h : xs[n]? = some a) : (modifyAt f n xs)[n]? = some (f a) := by
  induction xs generalizing n with
  | nil => cases h
  | cons x xs ih =>
    cases n with
    | zero =>
      obtain rfl : x = a := by simpa using h
      rfl
    | succ n => exact ih h

theorem modifyAt_const (b : α) (n : Nat) (xs : List α) :
    modifyAt (fun _ => b) n xs = xs.set n b := by
  induction xs generalizing n with
  | nil => cases n <;> rfl
  | cons x xs ih =>
    cases n with
    | zero => rfl
    | succ n => rw [modifyAt, ih, List.set_cons_succ]

theorem total_modifyAt (g : α → Nat) (h : xs[n]? = some a) :
    total ((modifyAt f n xs).map g) + g a = total (xs.map g) + g (f a) := by
  induction xs generalizing n with
  | nil => cases h
  | cons x xs ih =>
    cases n with
    | zero =>
      obtain rfl : x = a := by simpa using h
      simp only [modifyAt, List.map_cons, total]
      omega
    | succ n =>
      have hrest := ih (n := n) (by simpa using h)
      simp only [modifyAt, List.map_cons, total]
      omega

end

theorem total_append (ns ms : List Nat) : total (ns ++ ms) = total ns + total ms := by
  induction ns with
  | nil => exact (Nat.zero_add _).symm
  | cons n ns ih =>
    rw [List.cons_append, total, total, ih]
    omega

namespace Exchange

theorem total_tasks (s : Standing) (position channel : Nat) :
    total ((s.tasks position channel).map Task.effort) = s.effort := by
  cases s <;> rfl

theorem receivedBy_handle (x : Exchange) (l : Listener) (e : Event) (name : String) :
    (x.handle l e).receivedBy name = x.receivedBy name ++ if l.name = name then [e] else [] := by
  have hreceived : (x.handle l e).received = x.received ++ [(l.name, e)] := by
    unfold handle
    dsimp only
    split <;> rfl
  unfold receivedBy
  rw [hreceived, List.filterMap_append]
  by_cases hname : l.name = name <;> simp [hname]

theorem keeps_others_handle (x : Exchange) (l : Listener) (e : Event) :
    (x.handle l e).emitters = x.emitters ∧ (x.handle l e).ready = x.ready := by
  unfold handle
  dsimp only
  split <;> exact ⟨rfl, rfl⟩

/-- A step of the consumer of a channel. -/
theorem stepConsumer_eq {x : Exchange} {position i : Nat} {m : Emitter} {c c' : Channel}
    {handled : Option Event} {standing : Standing} (hm : x.emitters[position]? = some m)
    (hc : m.channels[i]? = some c) (hadvance : c.advance m.closed = (c', handled, standing)) :
    let y := x.stepConsumer position i
    y.emitters = modifyAt (fun m => { m with channels := modifyAt (fun _ => c') i m.channels })
      position x.emitters ∧ y.ready = x.ready ++ standing.tasks position i ∧
      ∀ name, y.receivedBy name = x.receivedBy name ++ if c.listener.name = name then
        handled.toList else [] := by
  unfold stepConsumer
  rw [hm, Option.bind_some, hc, Option.map_some, hadvance]
  dsimp only
  generalize hx₁ : x.modifyEmitter position (fun m => { m with
    channels := modifyAt (fun _ => c') i m.channels }) = x₁
  have hemitters : x₁.emitters = modifyAt (fun m => { m with
    channels := modifyAt (fun _ => c') i m.channels }) position
      x.emitters := hx₁ ▸ rfl
  have hready : x₁.ready = x.ready := hx₁ ▸ rfl
  have hreceived (name : String) : x₁.receivedBy name = x.receivedBy name := hx₁ ▸ rfl
  have hhandled : ∃ x₂, handled.elim x₁ (x₁.handle c.listener) = x₂ ∧ x₂.emitters = x₁.emitters ∧
      x₂.ready = x₁.ready ∧
      ∀ name, x₂.receivedBy name = x₁.receivedBy name ++ if c.listener.name = name then
        handled.toList else [] := by
    cases handled with
    | none => exact ⟨x₁, rfl, rfl, rfl, fun name => by simp⟩
    | some e =>
      have hothers := keeps_others_handle x₁ c.listener e
      exact ⟨_, rfl, hothers.1, hothers.2, receivedBy_handle x₁ c.listener e⟩
  obtain ⟨x₂, heq, hemitters₂, hready₂, hreceived₂⟩ := hhandled
  rw [heq]
  rw [hemitters] at hemitters₂
  rw [hready] at hready₂
  simp only [hreceived] at hreceived₂
  cases standing with
  | ready => exact ⟨hemitters₂, congrArg (· ++ _) hready₂, hreceived₂⟩
  | asleep => exact ⟨hemitters₂, by rw [hready₂]; exact (List.append_nil _).symm, hreceived₂⟩
  | «over» => exact ⟨hemitters₂, congrArg (· ++ _) hready₂, hreceived₂⟩

/-- The emitter at a position of an exchange, whose consumers are ready as they should. -/
structure Holds (x : Exchange) (position : Nat) (m : Emitter) : Prop where
  emitter : x.emitters[position]? = some m
  sound : m.Sound position x.ready

def account (x : Exchange) (m : Emitter) (name : String) : List Event :=
  x.receivedBy name ++ (channelOf m.channels name).pending

def take (x : Exchange) (t : Task) (rest : List Task) : Exchange :=
  match t with
  | .consumer position channel => stepConsumer { x with ready := rest } position channel
  | .release position => release { x with ready := rest } position
  | .caller => { x with ready := rest }

/-- What the step of somebody makes of an exchange and one of its emitters. -/
structure Took (position : Nat) (x : Exchange) (m : Emitter) (y : Exchange) (m' : Emitter) :
    Prop where
  holds : y.Holds position m'
  keeps : x.Keeps y
  closed : m'.closed = m.closed
  awaited : m'.awaited = m.awaited
  active : m'.active = m.active
  account : ∀ name, y.account m' name = x.account m name
  effort : y.effort < x.effort

variable {x : Exchange} {position : Nat} {m : Emitter} {t : Task} {rest : List Task}

theorem Holds.take_consumer {i : Nat}
    (h : ({ x with ready := .consumer position i :: rest } : Exchange).Holds position m) :
    ∃ m', Took position { x with ready := .consumer position i :: rest } m
      (x.take (.consumer position i) rest) m' := by
  obtain ⟨hm, hsound⟩ := h
  obtain ⟨i, hi, heq⟩ : ∃ j < m.channels.length, i = j := by
    rcases hsound.tasks _ List.mem_cons_self with heq | heq | ⟨j, hj, heq⟩
    · cases heq
    · cases heq
    · cases heq
      exact ⟨i, hj, rfl⟩
  subst heq
  have hc : m.channels[i]? = some m.channels[i] := List.getElem?_eq_getElem hi
  generalize m.channels[i] = c at hc
  have hadvanced := Channel.advanced (hsound.sound_of_getElem? hc) (hsound.isAwake hc)
  generalize hadvance : c.advance m.closed = advanced at hadvanced
  obtain ⟨c', handled, standing⟩ := advanced
  have hx : ({ x with ready := rest } : Exchange).emitters[position]? = some m := hm
  obtain ⟨hemitters, hready, hreceived⟩ := stepConsumer_eq hx hc hadvance
  have hkeeps := (keeps_ready { x with ready := .consumer position i :: rest } rest).trans
    (keeps_stepConsumer _ position i)
  refine ⟨{ m with channels := m.channels.set i c' }, ⟨?_, ?_⟩, hkeeps, rfl, rfl, rfl, ?_, ?_⟩
  · rw [take, hemitters, getElem?_modifyAt hm, modifyAt_const]
  · rw [take, hready]
    exact hsound.advance hc hadvanced
  · -- The event that was handled is received now, and no longer on its way.
    intro name
    have hname : c'.listener.name = c.listener.name := congrArg Listener.name hadvanced.listener
    unfold account
    rw [take, hreceived, channelOf_set hsound.names hc hname, List.append_assoc]
    refine congrArg (x.receivedBy name ++ ·) ?_
    split
    · next heq =>
      rw [← heq, channelOf_of_getElem? hsound.names hc]
      exact hadvanced.pending.symm
    · rfl
  · have hchannels := total_modifyAt (f := fun _ => c') Channel.effort hc
    have htotal :=
      total_modifyAt (f := fun m => { m with channels := modifyAt (fun _ => c') i m.channels })
      (fun m => total (m.channels.map Channel.effort)) hm
    have hless := hadvanced.effort
    dsimp only at hless
    have htask : Task.effort (.consumer position i) = 1 := rfl
    unfold effort
    rw [take, hemitters, hready, List.map_append, total_append, total_tasks]
    simp only [List.map_cons, total] at htotal hchannels ⊢
    omega

theorem Holds.take_release
    (h : ({ x with ready := .release position :: rest } : Exchange).Holds position m) :
    ∃ m', Took position { x with ready := .release position :: rest } m
      (x.take (.release position) rest) m' := by
  obtain ⟨hm, hsound⟩ := h
  have hreleased : ∃ y, x.take (.release position) rest = y ∧
      y.emitters = modifyAt (fun m => { m with held := m.held - 1 }) position x.emitters ∧
      y.ready = (if m.awaited ∧ m.held ≤ 1 then rest ++ [.caller] else rest) ∧
      y.received = x.received := by
    refine ⟨_, rfl, ?_⟩
    unfold take release
    dsimp only at hm ⊢
    rw [hm]
    dsimp only
    split <;> exact ⟨rfl, rfl, rfl⟩
  obtain ⟨y, hy, hemitters, hready, hreceived⟩ := hreleased
  have hkeeps := (keeps_ready { x with ready := .release position :: rest } rest).trans
    (keeps_release _ position)
  rw [hy]
  refine ⟨{ m with held := m.held - 1 }, ⟨?_, ?_⟩, hy ▸ hkeeps, rfl, rfl, rfl, ?_, ?_⟩
  · rw [hemitters, getElem?_modifyAt hm]
  · rw [hready]
    exact hsound.release
  · intro name
    unfold account receivedBy
    rw [hreceived]
  · have htotal := total_modifyAt (f := fun m => { m with held := m.held - 1 })
      (fun m => total (m.channels.map Channel.effort)) hm
    have hbound : total (y.ready.map Task.effort) ≤ total (rest.map Task.effort) + 1 := by
      rw [hready]
      split
      · rw [List.map_append, total_append]
        exact Nat.le_refl _
      · exact Nat.le_succ _
    have htask : Task.effort (.release position) = 2 := rfl
    unfold effort
    rw [hemitters]
    simp only [List.map_cons, total] at htotal ⊢
    omega

theorem Holds.take (h : ({ x with ready := t :: rest } : Exchange).Holds position m)
    (ht : t ≠ .caller) :
    ∃ m', Took position { x with ready := t :: rest } m (x.take t rest) m' := by
  rcases h.sound.tasks t List.mem_cons_self with rfl | rfl | ⟨i, -, rfl⟩
  · exact absurd rfl ht
  · exact h.take_release
  · exact h.take_consumer

theorem proceed_of_ready {fuel : Nat} (hready : x.ready = t :: rest) (ht : t ≠ .caller) :
    proceed (fuel + 1) x = proceed fuel (x.take t rest) := by
  rw [proceed, hready]
  cases t with
  | caller => exact absurd rfl ht
  | consumer position channel => rfl
  | release position => rfl

/-- An emitter is drained when its consumers are done and nobody is ready. -/
structure Drained (x : Exchange) (position : Nat) (m : Emitter) : Prop where
  holds : x.Holds position m
  closed : m.closed = true
  ready : x.ready = []
  done : ∀ c ∈ m.channels, c.isDone = true

theorem Drained.account_eq (h : x.Drained position m) (name : String) :
    x.account m name = x.receivedBy name := by
  have hpending : (channelOf m.channels name).pending = [] := by
    unfold channelOf
    cases hfound : m.channels.find? fun c => c.listener.name == name with
    | none => rfl
    | some c =>
      have hmem := List.mem_of_find?_eq_some hfound
      exact Channel.pending_of_done (h.holds.sound.channels c hmem) (h.done c hmem)
  unfold account
  rw [hpending, List.append_nil]

theorem Holds.drained (h : x.Holds position m) (hclosed : m.closed = true) (hready : x.ready = []) :
    x.Drained position m := by
  refine ⟨h, hclosed, hready, ?_⟩
  intro c hc
  obtain ⟨i, hi⟩ := List.mem_iff_getElem?.1 hc
  have hasleep := h.sound.awake i c hi
  rw [hready, hclosed, List.count_nil] at hasleep
  apply Channel.isDone_of_not_isAwake
  split at hasleep
  · cases hasleep
  · next hawake => exact Bool.eq_false_iff.2 hawake

/-- When an emitter is closed, its consumers come to an end within the bound. -/
theorem drained_proceed {fuel : Nat} (h : x.Holds position m) (hclosed : m.closed = true)
    (hfuel : x.effort ≤ fuel) :
    ∃ m', (proceed fuel x).Drained position m' ∧ ∀ name, (proceed fuel x).account m' name =
      x.account m name := by
  -- Every step lowers the effort by one at least, so that nobody is ready when the fuel is spent.
  induction fuel generalizing x m with
  | zero =>
    have hready : x.ready = [] := by
      cases hx : x.ready with
      | nil => rfl
      | cons t rest =>
        have hpositive : 0 < Task.effort t := by cases t <;> simp [Task.effort]
        unfold effort at hfuel
        rw [hx, List.map_cons, total] at hfuel
        omega
    exact ⟨m, h.drained hclosed hready, fun _ => rfl⟩
  | succ fuel ih =>
    cases hready : x.ready with
    | nil =>
      have hstop : proceed (fuel + 1) x = x := by rw [proceed, hready]
      rw [hstop]
      exact ⟨m, h.drained hclosed hready, fun _ => rfl⟩
    | cons t rest =>
      have hx : x = { x with ready := t :: rest } := by rw [← hready]
      by_cases ht : t = .caller
      · subst ht
        have hstop : proceed (fuel + 1) x = { x with ready := rest } := by rw [proceed, hready]
        obtain ⟨rfl, hsound⟩ := (hready ▸ h.sound).alone
        rw [hstop]
        exact ⟨m, Holds.drained ⟨h.emitter, hsound⟩ hclosed rfl, fun _ => rfl⟩
      · rw [hx] at h
        obtain ⟨m', htook⟩ := h.take ht
        have heffort := htook.effort
        rw [← hx] at heffort
        obtain ⟨m'', hdrained, haccount⟩ := ih htook.holds (htook.closed.trans hclosed) (by omega)
        rw [proceed_of_ready hready ht]
        refine ⟨m'', hdrained, fun name => ?_⟩
        rw [haccount, htook.account]
        rfl

theorem pass_of_ready (hready : x.ready = []) : x.pass = x := by
  have hpositive : 0 < (x.enqueue [.caller]).effort := by
    unfold effort enqueue
    rw [hready]
    exact Nat.lt_of_lt_of_le Nat.one_pos (Nat.le_add_left _ _)
  obtain ⟨fuel, hfuel⟩ := Nat.exists_eq_succ_of_ne_zero (Nat.ne_of_gt hpositive)
  have hcaller : (x.enqueue [.caller]).ready = [.caller] := by
    unfold enqueue
    rw [hready, List.nil_append]
  unfold pass
  dsimp only
  rw [hfuel, Nat.succ_eq_add_one, proceed, hcaller]
  dsimp only [enqueue]
  rw [← hready]

theorem Holds.closeAt (h : x.Holds position m) :
    (x.closeAt position).Holds position { m with closed := true } ∧
      ∀ name, (x.closeAt position).account { m with closed := true } name = x.account m name := by
  unfold Exchange.closeAt
  rw [h.emitter]
  dsimp only
  split
  · next hclosed =>
    have hsame : ({ m with closed := true } : Emitter) = m := by rw [← hclosed]
    rw [hsame]
    exact ⟨h, fun _ => rfl⟩
  · next hopen =>
      exact ⟨⟨getElem?_modifyAt h.emitter, h.sound.close (Bool.eq_false_iff.2 hopen)⟩, fun _ => rfl⟩

/-- The caller waits for the consumers of the emitter at a position. -/
def awaitAt (x : Exchange) (position : Nat) : Exchange :=
  if (x.emitters[position]?).any fun m => 0 < m.held then
    let x := x.modifyEmitter position fun m => { m with awaited := true }
    proceed x.effort x
  else x.pass

theorem Holds.awaitAt (h : x.Holds position m) (hclosed : m.closed = true)
    (hawaited : m.awaited = false) :
    ∃ m', (x.awaitAt position).Drained position m' ∧
      ∀ name, (x.awaitAt position).account m' name = x.account m name := by
  have hcaller := h.sound.caller_not_mem hawaited
  unfold Exchange.awaitAt
  rw [h.emitter, Option.any_some]
  split
  · have hwaits : (x.modifyEmitter position fun m => { m with awaited := true }).Holds position
        { m with awaited := true } :=
      ⟨getElem?_modifyAt h.emitter, { h.sound with caller := fun hmem => absurd hmem hcaller }⟩
    obtain ⟨m', hdrained, haccount⟩ := drained_proceed hwaits hclosed (Nat.le_refl _)
    exact ⟨m', hdrained, haccount⟩
  · next hheld =>
    have hnone : m.held = 0 := by simpa using hheld
    have hready := h.sound.ready_eq_nil hnone hcaller
    rw [pass_of_ready hready]
    exact ⟨m, h.drained hclosed hready, fun _ => rfl⟩

/-- At the end of its scope an emitter is drained: what was on its way to a listener has been
received. -/
theorem Holds.leaveAt (h : x.Holds position m) (hawaited : m.awaited = false) :
    ∃ m', (x.leaveAt position).Drained position m' ∧
      ∀ name, (x.leaveAt position).receivedBy name = x.account m name := by
  obtain ⟨hclosed, haccount⟩ := h.closeAt
  obtain ⟨m', hdrained, hsame⟩ := hclosed.awaitAt rfl hawaited
  have hleave : x.leaveAt position =
      ((x.closeAt position).awaitAt position).modifyEmitter position fun m =>
        { m with active := false } := rfl
  rw [hleave]
  generalize (x.closeAt position).awaitAt position = y at hdrained hsame ⊢
  have hleft : (y.modifyEmitter position fun m => { m with active := false }).Drained position
      { m' with active := false } := {
    holds := ⟨getElem?_modifyAt hdrained.holds.emitter, { hdrained.holds.sound with }⟩
    closed := hdrained.closed
    ready := hdrained.ready
    done := hdrained.done }
  refine ⟨_, hleft, fun name => ?_⟩
  rw [← hleft.account_eq name, ← haccount, ← hsame]
  rfl

end Exchange
end StepFlow
