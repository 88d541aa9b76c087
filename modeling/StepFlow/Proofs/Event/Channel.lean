import Mathlib.Data.List.Basic
import StepFlow.Event.Exchange

/-!
# The consumer of a channel

A consumer takes the events of its channel in order, one after the other, and none of them gets lost
on the way. It sleeps only while it waits for an event, and it is over only when its channel is
closed and nothing is left.
-/
namespace StepFlow
namespace Channel

def isDone (c : Channel) : Bool :=
  match c.phase with
  | .done => true
  | _ => false

def isAwake (c : Channel) (closed : Bool) : Bool :=
  match c.phase with
  | .waiting => closed
  | .done => false
  | _ => true

/-- A consumer that waits has nothing to take, and one that is done has nothing left in a closed
channel. -/
structure Sound (c : Channel) (closed : Bool) : Prop where
  waiting : c.isWaiting = true → c.buffer = []
  done : c.isDone = true → closed = true ∧ c.buffer = []

variable {c : Channel} {closed : Bool}

theorem sound_of_busy (hwaiting : c.isWaiting = false) (hdone : c.isDone = false) :
    c.Sound closed where
  waiting h := by cases hwaiting.symm.trans h
  done h := by cases hdone.symm.trans h

theorem sound_of_empty (hbuffer : c.buffer = []) (hdone : c.isDone = true → closed = true) :
    c.Sound closed :=
  ⟨fun _ => hbuffer, fun h => ⟨hdone h, hbuffer⟩⟩

theorem pending_of_done (h : c.Sound closed) (hdone : c.isDone = true) : c.pending = [] := by
  have hbuffer := (h.done hdone).2
  obtain ⟨listener, buffer, phase⟩ := c
  cases phase <;> cases hdone
  exact hbuffer

theorem isAwake_of_done (hdone : c.isDone = true) : c.isAwake closed = false := by
  obtain ⟨listener, buffer, phase⟩ := c
  cases phase <;> cases hdone
  rfl

theorem isDone_of_not_isAwake (h : c.isAwake true = false) : c.isDone = true := by
  obtain ⟨listener, buffer, phase⟩ := c
  cases phase <;> cases h
  rfl

theorem isDone_of_open (h : c.Sound false) : c.isDone = false := by
  cases hdone : c.isDone with
  | false => rfl
  | true => cases (h.done hdone).1

theorem isAwake_of_open (h : c.Sound false) : c.isAwake false = !c.isWaiting := by
  have hdone := isDone_of_open h
  obtain ⟨listener, buffer, phase⟩ := c
  cases phase with
  | done => cases hdone
  | _ => rfl

theorem isAwake_closed (h : c.Sound false) : c.isAwake true = true := by
  have hdone := isDone_of_open h
  obtain ⟨listener, buffer, phase⟩ := c
  cases phase with
  | done => cases hdone
  | _ => rfl

/-- What a consumer comes to after a step: it is awake, asleep or done. -/
def Comes (c : Channel) (closed : Bool) : Standing → Prop
  | .ready => c.isAwake closed = true ∧ c.isDone = false
  | .asleep => c.isAwake closed = false ∧ c.isDone = false
  | .over => c.isAwake closed = false ∧ c.isDone = true

end Channel

/-- A bound for the steps of those who are ready after a step of a consumer. -/
def Standing.effort : Standing → Nat
  | .ready => 1
  | .asleep => 0
  | .over => 2

namespace Channel
variable {c : Channel} {closed : Bool}

structure Advanced (c : Channel) (closed : Bool) (out : Channel × Option Event × Standing) :
    Prop where
  listener : out.1.listener = c.listener
  sound : out.1.Sound closed
  pending : c.pending = out.2.1.toList ++ out.1.pending
  comes : out.1.Comes closed out.2.2
  effort : out.1.effort + out.2.2.effort ≤ c.effort

theorem advanced (h : c.Sound closed) (hawake : c.isAwake closed = true) :
    c.Advanced closed (c.advance closed) := by
  have hwaiting := h.waiting
  obtain ⟨listener, buffer, phase⟩ := c
  cases phase with
  | starting => exact ⟨rfl, sound_of_busy rfl rfl, rfl, ⟨rfl, rfl⟩, Nat.le_refl _⟩
  | checking =>
    cases buffer with
    | nil =>
      cases closed with
      | true => exact ⟨rfl, sound_of_empty rfl fun _ => rfl, rfl, ⟨rfl, rfl⟩, (by decide : 2 ≤ 4)⟩
      | false =>
        exact ⟨rfl, sound_of_empty rfl (fun hdone => by cases hdone), rfl,
          ⟨rfl, rfl⟩, (by decide : 3 ≤ 4)⟩
    | cons e es =>
      refine ⟨rfl, sound_of_busy rfl rfl, rfl, ⟨rfl, rfl⟩, ?_⟩
      simp only [advance, effort, Standing.effort, List.length_cons]
      omega
  | waiting =>
    obtain rfl : buffer = [] := hwaiting rfl
    obtain rfl : closed = true := hawake
    exact ⟨rfl, sound_of_empty rfl fun _ => rfl, rfl, ⟨rfl, rfl⟩, (by decide : 2 ≤ 3)⟩
  | handed e => exact ⟨rfl, sound_of_busy rfl rfl, rfl, ⟨rfl, rfl⟩, Nat.le_refl _⟩
  | handling e => exact ⟨rfl, sound_of_busy rfl rfl, rfl, ⟨rfl, rfl⟩, Nat.le_refl _⟩
  | done => cases hawake

/-- An event reaches a channel if its consumer waits for one or there is room for it. -/
def accepts (c : Channel) (capacity : Capacity) : Bool :=
  c.isWaiting || capacity.hasRoom c.buffer.length

/-- What an offer makes of an open channel that takes it. -/
structure Offered (c : Channel) (e : Event) (c' : Channel) : Prop where
  listener : c'.listener = c.listener
  sound : c'.Sound false
  pending : c'.pending = c.pending ++ [e]
  awake : c'.isAwake false = true
  undone : c'.isDone = false

theorem offered {capacity : Capacity} {e : Event} (h : c.Sound false)
    (haccepts : c.accepts capacity = true) :
    ∃ c', c.offer? capacity e = some c' ∧ c.Offered e c' := by
  have hwaiting := h.waiting
  have hdone := h.done
  obtain ⟨listener, buffer, phase⟩ := c
  cases phase with
  | waiting =>
    obtain rfl : buffer = [] := hwaiting rfl
    exact ⟨_, rfl, rfl, sound_of_busy rfl rfl, rfl, rfl, rfl⟩
  | done => cases (hdone rfl).1
  | starting => exact ⟨_, if_pos haccepts, rfl, sound_of_busy rfl rfl, rfl, rfl, rfl⟩
  | checking => exact ⟨_, if_pos haccepts, rfl, sound_of_busy rfl rfl, rfl, rfl, rfl⟩
  | handed e' => exact ⟨_, if_pos haccepts, rfl, sound_of_busy rfl rfl, rfl, rfl, rfl⟩
  | handling e' => exact ⟨_, if_pos haccepts, rfl, sound_of_busy rfl rfl, rfl, rfl, rfl⟩

theorem offer?_of_not_accepts {capacity : Capacity} {e : Event} (h : c.accepts capacity = false) :
    c.offer? capacity e = none := by
  unfold accepts at h
  obtain ⟨hwaiting, hfull⟩ := Bool.or_eq_false_iff.1 h
  unfold offer?
  split
  · next hphase => simp [isWaiting, hphase] at hwaiting
  · rw [hfull]
    rfl

end Channel
end StepFlow
