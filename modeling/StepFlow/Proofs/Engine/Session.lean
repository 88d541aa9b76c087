import StepFlow.Proofs.Engine.Lockstep
import StepFlow.Proofs.Event.Delivery

/-!
# Sessions of one engine

Runs that share an engine take their turns in any order, and in between they are cancelled and the
listeners go on. Each run emits through an emitter of its own, so that what it does, what it comes
to and the context that it leaves are the same as if it were the only one.
-/
namespace StepFlow
open Engine (Impulse Order Outcome Stage Together)

structure Running where
  order : Order
  stage : Stage := .waiting
  /-- The position of its emitter, while that is open. -/
  emitter : Nat := 0
  token : Option Token
  calls : List Call := []
  emitted : List Event := []

def Running.ofOrder (o : Order) : Running := { order := o, token := o.token }

/-- A run, with the emitter at a position, after something has happened to it. -/
def Running.after {σ : Type} (r : Running) (emitter : Nat) (run : Stage × World σ) : Running :=
  ⟨r.order, run.1, emitter, run.2.token, run.2.calls, run.2.emitted⟩

/-- Runs that share an engine, the memory of its workers and its exchange. -/
structure Session (σ : Type) where
  engine : Engine σ
  memory : σ
  exchange : Exchange
  runs : List Running

/-- What happens in a session between the steps of its runs. -/
inductive Act where
  /-- Something befalls the run at a position. -/
  | urge (run : Nat) (impulse : Impulse)
  /-- Somebody who handles events takes a step. -/
  | take (t : Task)

def Act.for? (position : Nat) : Act → Option Impulse
  | urge run impulse => if run = position then some impulse else none
  | take _ => none

theorem Act.for?_self (i : Nat) (impulse : Impulse) : Act.for? i (.urge i impulse) = some impulse :=
  if_pos rfl

theorem Act.for?_of_ne {i j : Nat} (h : i ≠ j) (impulse : Impulse) :
    Act.for? j (.urge i impulse) = none := if_neg h

namespace Session
variable {σ : Type}

def start (e : Engine σ) (memory : σ) (exchange : Exchange) (orders : List Order) : Session σ where
  engine := e
  memory := memory
  exchange := exchange
  runs := orders.map .ofOrder

def reading (s : Session σ) : List (String × Value) → List (String × Value) :=
  s.engine.executor.look s.memory

/-- The position of the emitter of a run. The next one to be opened stands for one that is not
open. -/
def emitterOf (s : Session σ) (r : Running) : Nat :=
  if r.stage.isOpen then r.emitter else s.exchange.emitters.length

def worldOf (s : Session σ) (r : Running) : World σ where
  memory := s.memory
  calls := r.calls
  token := r.token
  exchange := s.exchange.focus (s.emitterOf r)
  emitted := r.emitted

/-- The session after something has happened to the run at a position. -/
def after (s : Session σ) (i : Nat) (r : Running) (run : Stage × World σ) : Session σ :=
  { s with
    memory := run.2.memory
    exchange := run.2.exchange
    runs := s.runs.set i (r.after (s.emitterOf r) run) }

def act (s : Session σ) : Act → Session σ
  | .urge i impulse =>
    match s.runs[i]? with
    | none => s
    | some r => s.after i r (s.engine.urge r.order (r.stage, s.worldOf r) impulse)
  | .take t => { s with exchange := s.exchange.turn t }

def play (s : Session σ) (acts : List Act) : Session σ := acts.foldl act s

end Session

/-- An order after impulses in a world of its own, without a session and without times. -/
def Engine.mirror {σ : Type} (e : Engine σ) (bus : Bus) (memory : σ) (o : Order)
    (impulses : List Impulse) :
    Stage × World σ :=
  (impulses.map Impulse.untimed).foldl (e.urge o.unnamed) (.waiting,
    { memory, token := o.token, exchange := { bus } })

theorem Engine.mirror_append {σ : Type} (e : Engine σ) (bus : Bus) (memory : σ) (o : Order)
    (impulses more : List Impulse) : e.mirror bus memory o (impulses ++ more) =
      (more.map Impulse.untimed).foldl (e.urge o.unnamed) (e.mirror bus memory o impulses) := by
  unfold mirror
  rw [List.map_append, List.foldl_append]

namespace Session
variable {σ : Type} {s s' : Session σ} {r : Running} {run₀ : Stage × World σ} {memory₀ : σ}
  {reading : List (String × Value) → List (String × Value)} {histories : Nat →
    List Impulse} {i j : Nat}

structure Shows (s : Session σ) (reading : List (String × Value) → List (String × Value))
    (r : Running) (run₀ : Stage × World σ) : Prop where
  stage : run₀.1 = r.stage.untimed
  endless : r.stage.Endless
  kin : World.Kin s.engine.executor.look reading (s.worldOf r) run₀.2
  own : r.stage.isOpen = true → s.exchange.Speaks r.emitter ∧ run₀.2.Voiced

/-- Every run of a session stands where its mirror stands, and no two of them share an emitter. -/
structure Reflects (s : Session σ) (memory₀ : σ) (histories : Nat → List Impulse) : Prop where
  reads : s.reading = s.engine.executor.look memory₀
  shows : ∀ i r, s.runs[i]? = some r →
    s.Shows s.reading r (s.engine.mirror s.exchange.bus memory₀ r.order (histories i))
  apart : ∀ (i j : Nat) (r r' : Running), i ≠ j → s.runs[i]? = some r → s.runs[j]? = some r' →
    r.stage.isOpen = true → r'.stage.isOpen = true → r.emitter ≠ r'.emitter

/-- What others do has no influence on a run, as long as its emitter goes on taking events. -/
theorem Shows.of_others (h : s.Shows reading r run₀) (hengine : s'.engine = s.engine)
    (hreads : s'.reading = reading) (hbus : s'.exchange.bus = s.exchange.bus)
    (hspeaks : r.stage.isOpen = true → s.exchange.Speaks r.emitter → s'.exchange.Speaks r.emitter) :
    s'.Shows reading r run₀ where
  stage := h.stage
  endless := h.endless
  kin := {
    now := h.kin.now
    token := h.kin.token
    bus := h.kin.bus.trans hbus.symm
    calls := h.kin.calls
    emitted := h.kin.emitted
    reads := hreads
    reads₀ := hengine ▸ h.kin.reads₀ }
  own hopen := ⟨hspeaks hopen (h.own hopen).1, (h.own hopen).2⟩

/-- What befalls a run befalls its mirror. -/
theorem Shows.urge (hfit : s.engine.Steady) (h : s.Shows reading r run₀) (impulse : Impulse) :
    Together s.engine.executor.look reading (s.worldOf r).exchange (s.emitterOf r)
      (s.engine.urge r.order (r.stage, s.worldOf r) impulse)
        (s.engine.urge r.order.unnamed run₀ impulse.untimed) := by
  obtain ⟨stage₀, w₀⟩ := run₀
  obtain rfl : stage₀ = r.stage.untimed := h.stage
  have hkin : World.Kin s.engine.executor.look reading (s.worldOf r) w₀ := h.kin
  have hemitter (hopen : r.stage.isOpen = true) : s.emitterOf r = r.emitter := if_pos hopen
  have hspeaks (hopen : r.stage.isOpen = true) : (s.worldOf r).exchange.Speaks (s.emitterOf r) := by
    rw [hemitter hopen]
    exact (h.own hopen).1.focus _
  cases impulse with
  | go now =>
    refine Engine.together_turn hfit r.order (hkin.later now) h.endless ?_ ?_
    · intro hwaiting
      have hclosed : r.stage.isOpen = false := congrArg Stage.isOpen hwaiting
      exact (if_neg (Bool.eq_false_iff.1 hclosed)).trans List.length_mapIdx.symm
    · intro hopen
      have hcurrent : (s.worldOf r).exchange.current? = some (s.emitterOf r) :=
        Exchange.current?_focus ((hemitter hopen).symm ▸ (h.own hopen).1.lt)
      exact ⟨⟨rfl, _, hcurrent, hspeaks hopen⟩, hcurrent, hspeaks hopen, (h.own hopen).2.emitting,
        (h.own hopen).2.exchange⟩
  | cancel reason =>
    exact {
      stage := rfl
      endless := h.endless
      kin := hkin.cancel reason
      bus := rfl
      own := fun hopen => ⟨hspeaks hopen, (h.own hopen).2.emitting, (h.own hopen).2.exchange⟩
      others := fun _ _ hother => hother }

theorem Reflects.emitterOf_ne (h : s.Reflects memory₀ histories) {r r' : Running} (hne : i ≠ j)
    (hr : s.runs[i]? = some r) (hr' : s.runs[j]? = some r') (hopen' : r'.stage.isOpen = true) :
    r'.emitter ≠ s.emitterOf r := by
  have hspeaks := ((h.shows j r' hr').own hopen').1
  unfold emitterOf
  split
  · next hopen => exact (h.apart i j r r' hne hr hr' hopen hopen').symm
  · exact Nat.ne_of_lt hspeaks.lt

theorem retains_turn (x : Exchange) (t : Task) : x.Retains (x.turn t) := by
  unfold Exchange.turn
  split
  · exact x.retains_take t _
  · exact .refl x

theorem reflects_start (e : Engine σ) {memory memory₀ : σ}
    (hlook : e.executor.look memory = e.executor.look memory₀) (x : Exchange)
    (orders : List Order) : (start e memory x orders).Reflects memory₀ fun _ => [] where
  reads := hlook
  shows i r hr := by
    obtain ⟨o, -, rfl⟩ := List.getElem?_map .. ▸ hr |> Option.map_eq_some_iff.1
    exact ⟨rfl, trivial, ⟨rfl, rfl, rfl, rfl, rfl, rfl, hlook.symm⟩, fun hopen => by cases hopen⟩
  apart i j r r' _ hr _ hopen := by
    obtain ⟨o, -, rfl⟩ := List.getElem?_map .. ▸ hr |> Option.map_eq_some_iff.1
    cases hopen

section
variable (h : s.Reflects memory₀ histories) (hr : s.runs[i]? = some r) {run : Stage × World σ}
  {impulse : Impulse}
  (htogether : Together s.engine.executor.look s.reading (s.worldOf r).exchange (s.emitterOf r) run
    (s.engine.urge r.order.unnamed (s.engine.mirror s.exchange.bus memory₀ r.order (histories i))
      impulse.untimed))
include h hr htogether

theorem Reflects.shows_after (j : Nat) (r' : Running) (hr' : (s.after i r run).runs[j]? = some r') :
    (s.after i r run).Shows s.reading r' (s.engine.mirror s.exchange.bus memory₀ r'.order
      (histories j ++ (Act.for? j (.urge i impulse)).toList)) := by
  have hi : i < s.runs.length := (List.getElem?_eq_some_iff.1 hr).1
  unfold after at hr'
  by_cases hne : i = j
  · subst hne
    rw [List.getElem?_set_self hi] at hr'
    obtain rfl := Option.some.inj hr'
    rw [Act.for?_self, Option.toList_some, Engine.mirror_append]
    exact ⟨htogether.stage, htogether.endless, { htogether.kin with bus := htogether.kin.bus },
      htogether.own⟩
  · rw [List.getElem?_set_ne hne] at hr'
    rw [Act.for?_of_ne hne, Option.toList_none, List.append_nil]
    refine (h.shows j r' hr').of_others rfl htogether.kin.reads htogether.bus
      fun hopen hspeaks => ?_
    exact htogether.others r'.emitter (h.emitterOf_ne hne hr hr' hopen) (hspeaks.focus _)

omit htogether in
theorem Reflects.apart_after (j k : Nat) (r' r'' : Running) (hne : j ≠ k)
    (hr' : (s.after i r run).runs[j]? = some r') (hr'' : (s.after i r run).runs[k]? = some r'')
    (hopen' : r'.stage.isOpen = true) (hopen'' : r''.stage.isOpen = true) :
    r'.emitter ≠ r''.emitter := by
  have hi : i < s.runs.length := (List.getElem?_eq_some_iff.1 hr).1
  unfold after at hr' hr''
  by_cases hj : i = j
  · subst hj
    rw [List.getElem?_set_self hi] at hr'
    rw [List.getElem?_set_ne hne] at hr''
    obtain rfl := Option.some.inj hr'
    exact (h.emitterOf_ne hne hr hr'' hopen'').symm
  · rw [List.getElem?_set_ne hj] at hr'
    by_cases hk : i = k
    · subst hk
      rw [List.getElem?_set_self hi] at hr''
      obtain rfl := Option.some.inj hr''
      exact h.emitterOf_ne hj hr hr' hopen'
    · rw [List.getElem?_set_ne hk] at hr''
      exact h.apart j k r' r'' hne hr' hr'' hopen' hopen''

end

/-- What is true of a session stays true of it through an act, whose meaning for each run is added
to its history. -/
theorem Reflects.act (hfit : s.engine.Steady) (h : s.Reflects memory₀ histories) (a : Act) :
    (s.act a).engine = s.engine ∧ (s.act a).exchange.bus = s.exchange.bus ∧
      (s.act a).Reflects memory₀ fun i => histories i ++ (a.for? i).toList := by
  cases a with
  | take t =>
    have hretains : s.exchange.Retains (s.act (.take t)).exchange := retains_turn s.exchange t
    refine ⟨rfl, hretains.bus, h.reads, fun i r hr => ?_, h.apart⟩
    rw [hretains.bus, show (Act.for? i (.take t)).toList = [] from rfl, List.append_nil]
    exact (h.shows i r hr).of_others rfl rfl hretains.bus fun _ => hretains.speaks r.emitter
  | urge i impulse =>
    cases hr : s.runs[i]? with
    | none =>
      have hact : s.act (.urge i impulse) = s := by rw [Session.act, hr]
      rw [hact]
      refine ⟨rfl, rfl, h.reads, fun j r hj => ?_, h.apart⟩
      have hne : i ≠ j := by
        rintro rfl
        cases hr.symm.trans hj
      rw [Act.for?_of_ne hne, Option.toList_none, List.append_nil]
      exact h.shows j r hj
    | some r =>
      have hact : s.act (.urge i impulse) =
          s.after i r (s.engine.urge r.order (r.stage, s.worldOf r) impulse) := by
        rw [Session.act, hr]
      have htogether := (h.shows i r hr).urge hfit impulse
      rw [hact]
      have hbus : (s.after i r (s.engine.urge r.order (r.stage, s.worldOf r)
        impulse)).exchange.bus = s.exchange.bus :=
        htogether.bus
      have hreads : (s.after i r (s.engine.urge r.order (r.stage, s.worldOf r) impulse)).reading =
          s.reading :=
        htogether.kin.reads
      refine ⟨rfl, hbus, hreads.trans h.reads, fun j r' hr' => ?_, h.apart_after hr⟩
      rw [hbus, hreads]
      exact h.shows_after hr htogether j r' hr'

theorem Reflects.play (hfit : s.engine.Steady) (h : s.Reflects memory₀ histories)
    (acts : List Act) :
    (s.play acts).engine = s.engine ∧ (s.play acts).exchange.bus = s.exchange.bus ∧
      (s.play acts).Reflects memory₀ fun i => histories i ++ acts.filterMap (Act.for? i) := by
  induction acts generalizing s histories with
  | nil =>
    simp only [List.filterMap_nil, List.append_nil]
    exact ⟨rfl, rfl, h⟩
  | cons a rest ih =>
    obtain ⟨hengine, hbus, hreflects⟩ := h.act hfit a
    have hhistories (i : Nat) : histories i ++ (a :: rest).filterMap (Act.for? i) =
        histories i ++ (a.for? i).toList ++ rest.filterMap (Act.for? i) := by
      rw [List.append_assoc, List.filterMap_cons]
      cases a.for? i <;> rfl
    obtain ⟨hengine', hbus', hreflects'⟩ := ih (hengine.symm ▸ hfit) hreflects
    simp only [hhistories]
    exact ⟨hengine'.trans hengine, hbus'.trans hbus, hreflects'⟩

theorem order_act (s : Session σ) (a : Act) (i : Nat) :
    (s.act a).runs[i]?.map Running.order = s.runs[i]?.map Running.order := by
  cases a with
  | take t => rfl
  | urge j impulse =>
    unfold act
    dsimp only
    split
    · rfl
    · next r hr =>
      unfold after
      by_cases hne : j = i
      · subst hne
        rw [List.getElem?_set_self (List.getElem?_eq_some_iff.1 hr).1, hr]
        rfl
      · rw [List.getElem?_set_ne hne]

theorem order_play (s : Session σ) (acts : List Act) (i : Nat) :
    (s.play acts).runs[i]?.map Running.order = s.runs[i]?.map Running.order := by
  induction acts generalizing s with
  | nil => rfl
  | cons a rest ih => exact (ih (s.act a)).trans (order_act s a i)

/-- The run for an order after acts, and its mirror. -/
theorem shows_play {e : Engine σ} (hfit : e.Steady) {memory memory₀ : σ}
    (hlook : e.executor.look memory = e.executor.look memory₀) (x : Exchange) {orders : List Order}
    {o : Order} (ho : orders[i]? = some o) (acts : List Act) :
    ∃ r, ((start e memory x orders).play acts).runs[i]? = some r ∧ r.order = o ∧
      ((start e memory x orders).play acts).Shows (e.executor.look memory₀) r
        (e.mirror x.bus memory₀ o (acts.filterMap (Act.for? i))) := by
  obtain ⟨hengine, hbus, hreflects⟩ := (reflects_start e hlook x orders).play hfit acts
  have horder := order_play (start e memory x orders) acts i
  have hstart : (start e memory x orders).runs[i]? = some (.ofOrder o) := by
    rw [start, List.getElem?_map, ho, Option.map_some]
  rw [hstart] at horder
  obtain ⟨r, hr, hr_order⟩ := Option.map_eq_some_iff.1 horder
  have hshows := hreflects.shows i r hr
  rw [hreflects.reads, hengine, hbus, hr_order] at hshows
  exact ⟨r, hr, hr_order, hshows⟩

end Session
end StepFlow
