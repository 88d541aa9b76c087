import Mathlib.Data.List.Nodup
import StepFlow.Proofs.Event.Channel

/-!
# The channels of an emitter

Every listener has one channel at most, and whoever has a step to take is ready, once. Both are kept
by whatever happens to an emitter.
-/
namespace StepFlow

/-- The channel of a listener, which is a new one where none was opened. -/
def channelOf (channels : List Channel) (name : String) : Channel :=
  (channels.find? fun c => c.listener.name == name).getD { listener := { name } }

section
variable {channels : List Channel} {i : Nat} {c c' : Channel} {name : String}

theorem channelOf_of_getElem? (hnames : (channels.map fun c => c.listener.name).Nodup)
    (hc : channels[i]? = some c) :
    channelOf channels c.listener.name = c := by
  obtain ⟨hi, rfl⟩ := List.getElem?_eq_some_iff.1 hc
  have hfound : (channels.find? fun d => d.listener.name == channels[i].listener.name) =
      some channels[i] := by
    refine List.find?_eq_some_iff_getElem.2 ⟨beq_self_eq_true _, i, hi, rfl, ?_⟩
    intro j hj
    have hi' : i < (channels.map fun c => c.listener.name).length := by rwa [List.length_map]
    have hj' : j < (channels.map fun c => c.listener.name).length := Nat.lt_trans hj hi'
    have hne : channels[j].listener.name ≠ channels[i].listener.name := by
      intro heq
      have hinj : (channels.map fun c => c.listener.name)[j] =
          (channels.map fun c => c.listener.name)[i] ↔ j = i :=
        hnames.getElem_inj_iff
      rw [List.getElem_map, List.getElem_map] at hinj
      exact Nat.ne_of_lt hj (hinj.1 heq)
    simpa using hne
  unfold channelOf
  rw [hfound]
  rfl

theorem find?_set {p : Channel → Bool} (hc : channels[i]? = some c) (hp : p c = false)
    (hp' : p c' = false) :
    (channels.set i c').find? p = channels.find? p := by
  induction channels generalizing i with
  | nil => rfl
  | cons d rest ih =>
    cases i with
    | zero =>
      obtain rfl : d = c := by simpa using hc
      rw [List.set_cons_zero, List.find?_cons, List.find?_cons, hp, hp']
    | succ i => rw [List.set_cons_succ, List.find?_cons, List.find?_cons, ih (by simpa using hc)]

theorem names_set (hc : channels[i]? = some c) (hname : c'.listener.name = c.listener.name) :
    (channels.set i c').map (fun c => c.listener.name) = channels.map fun c => c.listener.name := by
  obtain ⟨hi, rfl⟩ := List.getElem?_eq_some_iff.1 hc
  have hi' : i < (channels.map fun c => c.listener.name).length := by rwa [List.length_map]
  have hmap : (channels.map fun c => c.listener.name)[i] = channels[i].listener.name :=
    List.getElem_map _
  rw [List.map_set, hname, ← hmap, List.set_getElem_self]

theorem channelOf_set (hnames : (channels.map fun c => c.listener.name).Nodup)
    (hc : channels[i]? = some c) (hname : c'.listener.name = c.listener.name) (name : String) :
    channelOf (channels.set i c') name = if c.listener.name = name then c'
      else channelOf channels name := by
  have hi : i < channels.length := (List.getElem?_eq_some_iff.1 hc).1
  split
  · next heq =>
    have hnames' : ((channels.set i c').map fun c => c.listener.name).Nodup :=
      names_set hc hname ▸ hnames
    have hc' : (channels.set i c')[i]? = some c' := by simp [hi]
    rw [← heq, ← hname]
    exact channelOf_of_getElem? hnames' hc'
  · next hne =>
    unfold channelOf
    rw [find?_set hc (by simpa using hne) (by simpa [hname] using hne)]

theorem channelOf_concat_of_ne {l : Listener} (h : l.name ≠ name) :
    channelOf (channels ++ [{ listener := l }]) name = channelOf channels name := by
  unfold channelOf
  have hnew : (({ listener := l } : Channel).listener.name == name) = false :=
    beq_eq_false_iff_ne.2 h
  rw [List.find?_append, List.find?_singleton, if_neg (Bool.eq_false_iff.1 hnew), Option.or_none]

end

structure Emitter.Sound (m : Emitter) (position : Nat) (ready : List Task) : Prop where
  names : (m.channels.map fun c => c.listener.name).Nodup
  channels : ∀ c ∈ m.channels, c.Sound m.closed
  tasks : ∀ t ∈ ready, t = .caller ∨ t = .release position ∨ ∃ i < m.channels.length,
    t = .consumer position i
  awake : ∀ i c, m.channels[i]? = some c → ready.count (.consumer position i) =
    if c.isAwake m.closed then 1 else 0
  held : m.held = m.channels.countP (fun c => !c.isDone) + ready.count (.release position)
  callers : ready.count .caller ≤ 1
  caller : .caller ∈ ready → m.awaited = true ∧ m.held = 0

def Standing.tasks (position channel : Nat) : Standing → List Task
  | .ready => [.consumer position channel]
  | .asleep => []
  | .over => [.release position]

namespace Emitter.Sound
variable {m : Emitter} {position : Nat} {ready ready' : List Task} {i : Nat} {c c' : Channel}

theorem sound_of_getElem? (h : m.Sound position ready) (hc : m.channels[i]? = some c) :
    c.Sound m.closed :=
  h.channels c (List.mem_of_getElem? hc)

theorem caller_not_mem (h : m.Sound position ready) (hawaited : m.awaited = false) :
    Task.caller ∉ ready := by
  intro hmem
  cases hawaited.symm.trans (h.caller hmem).1

theorem count_consumer_of_le (h : m.Sound position ready) (hi : m.channels.length ≤ i) :
    ready.count (.consumer position i) = 0 := by
  refine List.count_eq_zero.2 fun hmem => ?_
  rcases h.tasks _ hmem with heq | heq | ⟨j, hj, heq⟩
  · cases heq
  · cases heq
  · cases heq
    exact Nat.not_lt.2 hi hj

theorem countP_set {channels : List Channel} (hc : channels[i]? = some c) (c' : Channel)
    (p : Channel → Bool) :
    (channels.set i c').countP p + (if p c then 1 else 0) = channels.countP p +
    if p c' then 1 else 0 := by
  obtain ⟨hi, rfl⟩ := List.getElem?_eq_some_iff.1 hc
  have hpositive : p channels[i] = true → 0 < channels.countP p := fun hp =>
    List.countP_pos_iff.2 ⟨_, List.getElem_mem hi, hp⟩
  rw [List.countP_set hi]
  split
  · next hp =>
    have := hpositive hp
    omega
  · omega

/-- The order of those who are ready does not matter. -/
theorem perm (h : m.Sound position ready) (hready : ready.Perm ready') :
    m.Sound position ready' where
  names := h.names
  channels := h.channels
  tasks t ht := h.tasks t (hready.mem_iff.2 ht)
  awake i c hc := hready.count_eq _ ▸ h.awake i c hc
  held := hready.count_eq _ ▸ h.held
  callers := hready.count_eq _ ▸ h.callers
  caller ht := h.caller (hready.mem_iff.2 ht)

/-- A channel goes over into another state, and the tasks of its consumer with it: some are gone and
some more come. -/
theorem replace (h : m.Sound position ready) (gone more : List Task) (hc : m.channels[i]? = some c)
    (hname : c'.listener.name = c.listener.name) (hsound : c'.Sound m.closed)
    (hready : (ready' ++ gone).Perm (ready ++ more)) (hgone : ∀ t ∈ gone, t = .consumer position i)
    (hmore : ∀ t ∈ more, t = .consumer position i ∨ t = .release position)
    (hawake : more.count (.consumer position i) + (if c.isAwake m.closed then 1 else 0) =
      gone.length + if c'.isAwake m.closed then 1 else 0)
    (hundone : more.count (.release position) + (if !c'.isDone then 1 else 0) =
      if !c.isDone then 1 else 0) :
    ({ m with channels := m.channels.set i c' } : Emitter).Sound position ready' := by
  have hi : i < m.channels.length := (List.getElem?_eq_some_iff.1 hc).1
  -- Only the tasks of this consumer and the releases are counted anew; all others are where they
  -- were.
  have hcount (t : Task) : ready'.count t + gone.count t = ready.count t + more.count t := by
    rw [← List.count_append, ← List.count_append]
    exact hready.count_eq t
  have hother {t : Task} (ht : t ≠ .consumer position i) : gone.count t = 0 :=
    List.count_eq_zero.2 fun hmem => ht (hgone t hmem)
  have hnone {t : Task} (ht : t ≠ .consumer position i) (ht' : t ≠ .release position) :
      more.count t = 0 :=
    List.count_eq_zero.2 fun hmem => (hmore t hmem).elim ht ht'
  have hcaller : ready'.count .caller = ready.count .caller := by
    have := hcount .caller
    rw [hother (by simp), hnone (by simp) (by simp)] at this
    omega
  refine ⟨names_set hc hname ▸ h.names, ?_, ?_, ?_, ?_, hcaller ▸ h.callers, ?_⟩
  · intro d hd
    rcases List.mem_or_eq_of_mem_set hd with hd | rfl
    · exact h.channels d hd
    · exact hsound
  · intro t ht
    rw [List.length_set]
    rcases List.mem_append.1 (hready.mem_iff.1 (List.mem_append_left _ ht)) with ht | ht
    · exact h.tasks t ht
    · rcases hmore t ht with rfl | rfl
      · exact .inr (.inr ⟨i, hi, rfl⟩)
      · exact .inr (.inl rfl)
  · intro j d hd
    have hj := hcount (.consumer position j)
    by_cases hij : i = j
    · subst hij
      obtain rfl : d = c' := by simpa [hi] using hd.symm
      have hlength : gone.count (.consumer position i) = gone.length :=
        List.count_eq_length.2 fun t ht => (hgone t ht).symm
      have hbefore := h.awake i c hc
      dsimp only
      omega
    · have hne : Task.consumer position j ≠ .consumer position i := by simpa using Ne.symm hij
      rw [hother hne, hnone hne (by simp)] at hj
      rw [List.getElem?_set_ne hij] at hd
      have hbefore := h.awake j d hd
      dsimp only
      omega
  · have hrelease := hcount (.release position)
    have hheld := h.held
    have hset := countP_set hc c' fun c => !c.isDone
    rw [hother (by simp)] at hrelease
    dsimp only at hset ⊢
    omega
  · intro hmem
    have hbefore : 0 < ready.count .caller := hcaller ▸ List.count_pos_iff.2 hmem
    exact h.caller (List.count_pos_iff.1 hbefore)

/-- A channel is opened, and its consumer starts. -/
theorem start (h : m.Sound position ready) (hawaited : m.awaited = false) {l : Listener}
    (hnew : l.name ∉ m.channels.map fun c => c.listener.name) :
    ({ m with channels := m.channels ++ [{ listener := l }], held := m.held + 1 } : Emitter).Sound
      position (ready ++ [.consumer position m.channels.length]) := by
  have hcaller := h.caller_not_mem hawaited
  have hfresh := h.count_consumer_of_le (Nat.le_refl m.channels.length)
  refine ⟨?_, ?_, ?_, ?_, ?_, ?_, ?_⟩
  · rw [List.map_append]
    refine List.nodup_append.2 ⟨h.names, List.nodup_singleton _, ?_⟩
    rintro name hname _ hl rfl
    rw [List.map_singleton, List.mem_singleton] at hl
    exact hnew (hl ▸ hname)
  · refine List.forall_mem_append.2 ⟨h.channels, ?_⟩
    rw [List.forall_mem_singleton]
    exact Channel.sound_of_busy rfl rfl
  · intro t ht
    rw [List.length_append, List.length_singleton]
    rcases List.mem_append.1 ht with ht | ht
    · rcases h.tasks t ht with heq | heq | ⟨i, hi, heq⟩
      · exact .inl heq
      · exact .inr (.inl heq)
      · exact .inr (.inr ⟨i, Nat.lt_succ_of_lt hi, heq⟩)
    · exact .inr (.inr ⟨_, Nat.lt_succ_self _, List.mem_singleton.1 ht⟩)
  · intro j d hd
    rw [List.count_append, List.count_singleton]
    dsimp only at hd ⊢
    rcases Nat.lt_trichotomy j m.channels.length with hj | rfl | hj
    · rw [List.getElem?_append_left hj] at hd
      have hne : (Task.consumer position m.channels.length == .consumer position j) = false := by
        simp [Nat.ne_of_gt hj]
      rw [hne, h.awake j d hd]
      rfl
    · rw [List.getElem?_concat_length] at hd
      cases hd
      rw [hfresh, if_pos (beq_self_eq_true _)]
      rfl
    · rw [List.getElem?_eq_none (by simp; omega)] at hd
      cases hd
  · rw [List.countP_append, List.count_append, h.held]
    have hone : [({ listener := l } : Channel)].countP (fun c => !c.isDone) = 1 := rfl
    have hnone : [Task.consumer position m.channels.length].count (.release position) = 0 := rfl
    dsimp only
    omega
  · rw [List.count_append, List.count_eq_zero.2 hcaller]
    exact Nat.zero_le 1
  · intro hmem
    rcases List.mem_append.1 hmem with hmem | hmem
    · exact absurd hmem hcaller
    · cases List.mem_singleton.1 hmem

/-- An open channel takes an event that it accepts. Its consumer is woken if it waits. -/
theorem offer (h : m.Sound position ready) (hopen : m.closed = false) {e : Event}
    (hc : m.channels[i]? = some c) (hoffered : c.Offered e c') :
    ({ m with channels := m.channels.set i c' } : Emitter).Sound position
      (ready ++ if c.isWaiting then [.consumer position i] else []) := by
  have hsound : c.Sound false := hopen ▸ h.sound_of_getElem? hc
  refine h.replace [] (if c.isWaiting then [.consumer position i] else []) hc
    (congrArg Listener.name hoffered.listener) (hopen ▸ hoffered.sound) ?_ (by simp) ?_ ?_ ?_
  · rw [List.append_nil]
  · intro t ht
    split at ht
    · exact .inl (List.mem_singleton.1 ht)
    · cases ht
  · rw [hopen, Channel.isAwake_of_open hsound, hoffered.awake]
    cases c.isWaiting <;> simp
  · rw [Channel.isDone_of_open hsound, hoffered.undone]
    cases c.isWaiting <;> simp

theorem isAwake (h : m.Sound position (.consumer position i :: ready))
    (hc : m.channels[i]? = some c) :
    c.isAwake m.closed = true := by
  have hcount := h.awake i c hc
  rw [List.count_cons_self] at hcount
  split at hcount
  · assumption
  · omega

theorem advance (h : m.Sound position (.consumer position i :: ready))
    (hc : m.channels[i]? = some c) {handled : Option Event} {standing : Standing}
    (hadvanced : c.Advanced m.closed (c', handled, standing)) :
    ({ m with channels := m.channels.set i c' } : Emitter).Sound position
    (ready ++ standing.tasks position i) := by
  have hawake := h.isAwake hc
  have hundone : c.isDone = false := by
    cases hdone : c.isDone with
    | false => rfl
    | true => cases (Channel.isAwake_of_done hdone).symm.trans hawake
  have hcomes := hadvanced.comes
  refine h.replace [.consumer position i] (standing.tasks position i) hc
    (congrArg Listener.name hadvanced.listener) hadvanced.sound
      List.perm_append_comm (by simp) ?_ ?_ ?_
  · intro t ht
    cases standing with
    | ready => exact .inl (List.mem_singleton.1 ht)
    | asleep => cases ht
    | «over» => exact .inr (List.mem_singleton.1 ht)
  · rw [hawake]
    cases standing <;> simp [Standing.tasks, hcomes.1]
  · rw [hundone]
    cases standing <;> simp [Standing.tasks, hcomes.2]

/-- A consumer that is over is released, and the caller who waits for the last one goes on. -/
theorem release (h : m.Sound position (.release position :: ready)) :
    ({ m with held := m.held - 1 } : Emitter).Sound position
      (if m.awaited ∧ m.held ≤ 1 then ready ++ [.caller] else ready) := by
  have hheld := h.held
  rw [List.count_cons_self] at hheld
  have hcaller : Task.caller ∉ ready := by
    intro hmem
    have := (h.caller (List.mem_cons_of_mem _ hmem)).2
    omega
  have hcount (t : Task) (ht : t ≠ .caller) :
      (if m.awaited ∧ m.held ≤ 1 then ready ++ [.caller] else ready).count t = ready.count t := by
    split
    · rw [List.count_append, List.count_singleton, if_neg (by simpa using Ne.symm ht), Nat.add_zero]
    · rfl
  have hcons {t : Task} (ht : t ≠ .release position) : (Task.release position :: ready).count t =
      ready.count t :=
    List.count_cons_of_ne (Ne.symm ht)
  refine ⟨h.names, h.channels, ?_, ?_, ?_, ?_, ?_⟩
  · intro t ht
    have hmem : t = .caller ∨ t ∈ ready := by
      split at ht
      · rcases List.mem_append.1 ht with ht | ht
        · exact .inr ht
        · exact .inl (List.mem_singleton.1 ht)
      · exact .inr ht
    rcases hmem with rfl | hmem
    · exact .inl rfl
    · exact h.tasks t (List.mem_cons_of_mem _ hmem)
  · intro j d hd
    rw [hcount _ (by simp), ← hcons (by simp)]
    exact h.awake j d hd
  · rw [hcount _ (by simp)]
    dsimp only
    omega
  · split
    · rw [List.count_append, List.count_eq_zero.2 hcaller]
      exact Nat.le_refl 1
    · rw [List.count_eq_zero.2 hcaller]
      exact Nat.zero_le 1
  · intro hmem
    split at hmem
    · next hlast => exact ⟨hlast.1, by dsimp only; omega⟩
    · exact absurd hmem hcaller

theorem ready_eq_nil (h : m.Sound position ready) (hheld : m.held = 0) (hcaller : .caller ∉ ready) :
    ready = [] := by
  refine List.eq_nil_iff_forall_not_mem.2 fun t ht => ?_
  have hsum := h.held
  have hcount : 0 < ready.count t := List.count_pos_iff.2 ht
  -- Nobody is held: a release that is ready, and a consumer that is not done, would be.
  rcases h.tasks t ht with rfl | rfl | ⟨i, hi, rfl⟩
  · exact hcaller ht
  · omega
  · have hc : m.channels[i]? = some m.channels[i] := List.getElem?_eq_getElem hi
    have hawake := h.awake i _ hc
    have hundone : (!m.channels[i].isDone) = true := by
      cases hdone : m.channels[i].isDone with
      | false => rfl
      | true =>
        rw [Channel.isAwake_of_done hdone, if_neg Bool.false_ne_true] at hawake
        omega
    have hpositive : 0 < m.channels.countP fun c => !c.isDone :=
      List.countP_pos_iff.2 ⟨_, List.getElem_mem hi, hundone⟩
    omega

theorem alone (h : m.Sound position (.caller :: ready)) : ready = [] ∧ m.Sound position [] := by
  have hcons {t : Task} (ht : t ≠ .caller) : (Task.caller :: ready).count t = ready.count t :=
    List.count_cons_of_ne (Ne.symm ht)
  have hcallers := h.callers
  rw [List.count_cons_self] at hcallers
  have hcaller : Task.caller ∉ ready := fun hmem => by
    have := List.count_pos_iff.2 hmem
    omega
  have hrest : m.Sound position ready := {
    h with
    tasks := fun t ht => h.tasks t (List.mem_cons_of_mem _ ht)
    awake := fun i c hc => by rw [← hcons (by simp), h.awake i c hc]
    held := by rw [← hcons (by simp), h.held]
    callers := by omega
    caller := fun hmem => absurd hmem hcaller }
  have hready := hrest.ready_eq_nil (h.caller List.mem_cons_self).2 hcaller
  exact ⟨hready, hready ▸ hrest⟩

end Emitter.Sound

def wokenBy (position : Nat) (channels : List Channel) (start : Nat) : List Task :=
  (channels.zipIdx start).filterMap fun (c, i) => if c.isWaiting then
    some (Task.consumer position i) else none

section
variable {position : Nat} {channels : List Channel} {start : Nat}

theorem wokenBy_cons (c : Channel) (rest : List Channel) :
    wokenBy position (c :: rest) start =
      (if c.isWaiting then [.consumer position start] else []) ++
      wokenBy position rest (start + 1) := by
  unfold wokenBy
  rw [List.zipIdx_cons, List.filterMap_cons]
  dsimp only
  by_cases hwaiting : c.isWaiting = true
  · rw [if_pos hwaiting, if_pos hwaiting]
    rfl
  · rw [if_neg hwaiting, if_neg hwaiting]
    rfl

theorem mem_wokenBy {t : Task} (h : t ∈ wokenBy position channels start) :
    ∃ i < channels.length, t = .consumer position (start + i) := by
  induction channels generalizing start with
  | nil => cases h
  | cons c rest ih =>
    rw [wokenBy_cons] at h
    rcases List.mem_append.1 h with h | h
    · split at h
      · exact ⟨0, Nat.succ_pos _, List.mem_singleton.1 h⟩
      · cases h
    · obtain ⟨i, hi, rfl⟩ := ih h
      refine ⟨i + 1, Nat.succ_lt_succ hi, ?_⟩
      rw [Nat.add_assoc, Nat.add_comm 1 i]

theorem count_wokenBy {i : Nat} {c : Channel} (hc : channels[i]? = some c) :
    (wokenBy position channels start).count (.consumer position (start + i)) =
    if c.isWaiting then 1 else 0 := by
  induction channels generalizing start i with
  | nil => cases hc
  | cons d rest ih =>
    rw [wokenBy_cons, List.count_append]
    cases i with
    | zero =>
      obtain rfl : d = c := by simpa using hc
      have hlater : (wokenBy position rest (start + 1)).count (.consumer position start) = 0 := by
        refine List.count_eq_zero.2 fun hmem => ?_
        obtain ⟨i, -, heq⟩ := mem_wokenBy hmem
        have : start = start + 1 + i := by simpa using heq
        omega
      rw [Nat.add_zero, hlater]
      cases d.isWaiting <;> simp
    | succ i =>
      have hne : Task.consumer position start ≠ .consumer position (start + (i + 1)) := by simp
      have hfirst : (if d.isWaiting then [Task.consumer position start] else []).count
          (.consumer position (start + (i + 1))) = 0 := by
        refine List.count_eq_zero.2 fun hmem => ?_
        split at hmem
        · exact hne (List.mem_singleton.1 hmem).symm
        · cases hmem
      have hlater : (wokenBy position rest (start + 1)).count (.consumer position (start + 1 + i)) =
          if c.isWaiting then 1 else 0 := ih (by simpa using hc)
      rw [show start + (i + 1) = start + 1 + i by omega] at hfirst ⊢
      rw [hfirst, hlater, Nat.zero_add]

end

/-- The emitter is closed, and the consumers that wait are woken. -/
theorem Emitter.Sound.close {m : Emitter} {position : Nat} {ready : List Task}
    (h : m.Sound position ready) (hopen : m.closed = false) :
    ({ m with closed := true } : Emitter).Sound position
    (ready ++ wokenBy position m.channels 0) := by
  have hsound (c : Channel) (hc : c ∈ m.channels) : c.Sound false := hopen ▸ h.channels c hc
  have hnone {t : Task} (ht : ∀ i, t ≠ .consumer position i) :
      (wokenBy position m.channels 0).count t = 0 := by
    refine List.count_eq_zero.2 fun hmem => ?_
    obtain ⟨i, -, rfl⟩ := mem_wokenBy hmem
    exact ht _ rfl
  refine ⟨h.names, ?_, ?_, ?_, ?_, ?_, ?_⟩
  · intro c hc
    exact ⟨(hsound c hc).waiting, fun hdone => by
      cases (Channel.isDone_of_open (hsound c hc)).symm.trans hdone⟩
  · intro t ht
    rcases List.mem_append.1 ht with ht | ht
    · exact h.tasks t ht
    · obtain ⟨i, hi, rfl⟩ := mem_wokenBy ht
      exact .inr (.inr ⟨i, hi, by rw [Nat.zero_add]⟩)
  · intro i c hc
    have hmem : c ∈ m.channels := List.mem_of_getElem? hc
    have hwoken : (wokenBy position m.channels 0).count (.consumer position (0 + i)) =
        if c.isWaiting then 1 else 0 := count_wokenBy hc
    rw [Nat.zero_add] at hwoken
    dsimp only
    rw [List.count_append, hwoken, h.awake i c hc, hopen, Channel.isAwake_of_open (hsound c hmem),
      Channel.isAwake_closed (hsound c hmem)]
    cases c.isWaiting <;> rfl
  · rw [List.count_append, hnone (by simp), Nat.add_zero]
    exact h.held
  · rw [List.count_append, hnone (by simp), Nat.add_zero]
    exact h.callers
  · intro hmem
    rcases List.mem_append.1 hmem with hmem | hmem
    · exact h.caller hmem
    · obtain ⟨i, -, heq⟩ := mem_wokenBy hmem
      cases heq

end StepFlow
